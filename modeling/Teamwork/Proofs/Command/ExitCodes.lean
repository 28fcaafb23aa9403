import Mathlib.Data.List.Infix
import Teamwork.Command.Run
import Teamwork.Proofs.Graph.Changes
import Teamwork.Proofs.Snapshot.Entering

/-!
# Exit codes

A run that fails has a cause, and there is a code for every kind of cause. The cause is told here
from what the run finds: the settings, the text of the data file and the ids it is asked about, and
where names of files lead. It is not told from the message of the failure. Where a file is the
cause, though, the message is what the program takes the code from.

That makes a difference. The name of the file is a part of the message, and two phrases in it are
taken for those of other causes. Everything else that the program puts into such a message is
harmless: neither phrase has a colon in it, which stands between the name and the reason, neither
begins within the words in front of the name, and no reason that is known here has one of them in
it. What else the system says is not known, so its words count as the name does. So the code of such
a failure is a function of the name and of what the system says, and the code of any other does not
depend on names.

## Main definitions

* `Says`, `Tells` — a text has a phrase in it, in any case, and the trouble with a file has.
* `Cause`, `Cause.code` — what makes a run fail, with the code that is meant for it.
* `Task.IsAboutUnknown` — a task names an id that is not in the graph.
* `Request.Fails` — a request fails on a tree of files, for a cause.

## Main results

* `codeOfWords_fileMessage` — the code of a failure that a file causes.
* `Task.givesUpIf_respond` — when a task on a graph fails.
* `Request.Fails.code_eq`, `Request.exists_fails` — every cause is reported, and every report of a
  failure has a cause.
* `Files.code_run_iff` — the codes of all runs.
-/

namespace Teamwork

/-! ### Phrases in messages -/

theorem occursIn_iff {part cs : List Char} : occursIn part cs = true ↔ part <:+: cs := by
  induction cs with
  | nil => simp [occursIn]
  | cons c cs ih =>
    rw [occursIn, Bool.or_eq_true, List.isPrefixOf_iff_prefix, ih, List.infix_cons_iff]

section Phrases

variable {α : Type} {part : List α} {sep : α}

theorem prefix_append_cons_iff (hsep : sep ∉ part) (a b : List α) :
    part <+: a ++ sep :: b ↔ part <+: a := by
  induction a generalizing part with
  | nil =>
    cases part with
    | nil => simp
    | cons c part =>
      have hne : c ≠ sep := by
        rintro rfl
        exact hsep List.mem_cons_self
      simp [List.cons_prefix_cons, hne]
  | cons d a ih =>
    cases part with
    | nil => simp
    | cons c part =>
      rw [List.cons_append, List.cons_prefix_cons, List.cons_prefix_cons,
        ih fun h => hsep (List.mem_cons_of_mem c h)]

/-- A phrase does not reach over a character that is not in it. -/
theorem infix_append_cons_iff (hsep : sep ∉ part) (a b : List α) :
    part <:+: a ++ sep :: b ↔ part <:+: a ∨ part <:+: b := by
  induction a with
  | nil =>
    have hprefix := prefix_append_cons_iff hsep [] b
    rw [List.nil_append] at hprefix
    rw [List.nil_append, List.infix_cons_iff, hprefix, List.prefix_nil, List.infix_nil]
  | cons c a ih =>
    have hprefix := prefix_append_cons_iff hsep (c :: a) b
    rw [List.cons_append] at hprefix
    rw [List.cons_append, List.infix_cons_iff, hprefix, ih, List.infix_cons_iff, or_assoc]

/-- A phrase that cannot begin within some words is not found there, whatever comes after them. -/
theorem infix_append_iff_of_tails {words : List α}
    (h : ∀ tail ∈ words.tails, tail ≠ [] → ¬part <+: tail ∧ ¬tail <+: part) (rest : List α) :
    part <:+: words ++ rest ↔ part <:+: rest := by
  induction words with
  | nil => rfl
  | cons c words ih =>
    -- a phrase and the words that begin at one place are prefixes of one text
    have hprefix : ¬part <+: c :: (words ++ rest) := by
      intro hpart
      obtain ⟨hnot, hnot'⟩ := h (c :: words) (by simp) (List.cons_ne_nil c words)
      rcases List.prefix_or_prefix_of_prefix hpart (List.prefix_append (c :: words) rest) with h | h
      · exact hnot h
      · exact hnot' h
    rw [List.cons_append, List.infix_cons_iff, or_iff_right hprefix]
    exact ih fun tail htail => h tail (by simp_all)

end Phrases

/-- A text has a phrase in it, in any case. -/
def Says (phrase text : String) : Prop :=
  occursIn phrase.toList (Text.lower text).toList = true

instance (phrase text : String) : Decidable (Says phrase text) :=
  inferInstanceAs (Decidable (_ = true))

/-- What the system says about an obstacle that is not known otherwise. -/
def Obstacle.reason? : Obstacle → Option String
  | refused reason => some reason
  | missing | fileExists | notFolder | isFolder | tooLong => none

/-- The trouble with a file has a phrase in it: in the name of the file, or in what the system says
about it. -/
def Tells (phrase path : String) (obstacle : Obstacle) : Prop :=
  Says phrase path ∨ ∃ reason ∈ obstacle.reason?, Says phrase reason

instance (phrase path : String) (obstacle : Obstacle) : Decidable (Tells phrase path obstacle) :=
  inferInstanceAs (Decidable (_ ∨ _))

/-- The phrases that another cause is known by. -/
def tellingPhrases : List String :=
  ["data file not found", "config"]

/-- What is said about a file, before its name. -/
def fileWords : List String :=
  ["Cannot read ", "Cannot write ", "Cannot create directory "]

theorem toList_lower_append (s t : String) :
    (Text.lower (s ++ t)).toList = (Text.lower s).toList ++ (Text.lower t).toList := by
  simp [Text.lower]

/-- The phrases that count are in the message of an obstacle only if the system says them. -/
theorem infix_message_iff {phrase : String} (hphrase : phrase ∈ tellingPhrases)
    (obstacle : Obstacle) : phrase.toList <:+: ' ' :: (Text.lower obstacle.message).toList ↔
      ∃ reason ∈ obstacle.reason?, Says phrase reason := by
  cases obstacle with
  | refused reason =>
    have hblank : ∀ phrase ∈ tellingPhrases, ∀ tail ∈ [' '].tails,
        tail ≠ [] → ¬phrase.toList <+: tail ∧ ¬tail <+: phrase.toList := by decide
    have hreason := infix_append_iff_of_tails (hblank phrase hphrase) (Text.lower reason).toList
    simpa [Obstacle.message, Obstacle.reason?, Says, occursIn_iff] using hreason
  | missing | fileExists | notFolder | isFolder | tooLong =>
    have hnot : ∀ obstacle ∈ [Obstacle.missing, .fileExists, .notFolder, .isFolder, .tooLong],
        ∀ phrase ∈ tellingPhrases,
          ¬phrase.toList <:+: ' ' :: (Text.lower obstacle.message).toList := by decide +kernel
    exact iff_of_false (hnot _ (by simp) phrase hphrase) (by simp [Obstacle.reason?])

/-- In a message about a file, the phrases that count can only come from its name or from what the
system says. -/
theorem says_fileMessage {phrase words : String} (hphrase : phrase ∈ tellingPhrases)
    (hwords : words ∈ fileWords) (path : String) (obstacle : Obstacle) :
    Says phrase (words ++ path ++ ": " ++ obstacle.message) ↔ Tells phrase path obstacle := by
  have hsep : ∀ phrase ∈ tellingPhrases, ':' ∉ phrase.toList := by decide
  have htails : ∀ phrase ∈ tellingPhrases, ∀ words ∈ fileWords,
      ∀ tail ∈ (Text.lower words).toList.tails, tail ≠ [] →
        ¬phrase.toList <+: tail ∧ ¬tail <+: phrase.toList := by decide +kernel
  have hcolon : (Text.lower ": ").toList = [':', ' '] := by decide
  rw [Tells, Says, Says, occursIn_iff, occursIn_iff, toList_lower_append, toList_lower_append,
    toList_lower_append, hcolon, List.append_assoc, List.append_assoc,
    infix_append_iff_of_tails (htails phrase hphrase words hwords)]
  exact (infix_append_cons_iff (hsep phrase hphrase) _ _).trans
    (or_congr Iff.rfl (infix_message_iff hphrase obstacle))

/-! ### Causes -/

/-- What makes a run fail. -/
inductive Cause where
  /-- The settings cannot be used. -/
  | settings
  /-- There is no data file. -/
  | noData
  /-- The text of the data file does not load. -/
  | content
  /-- An employee or a chat identity is not known. -/
  | unknownId
  /-- A file of this name cannot be read or written, or no folder of this name can be made, because
  of an obstacle. -/
  | file (path : String) (obstacle : Obstacle)
  deriving DecidableEq, Repr

namespace Cause

/-- The exit code that is meant for a cause. -/
def code : Cause → Nat
  | settings => 2
  | noData => 3
  | content => 4
  | unknownId => 5
  | file .. => 1

/-- The exit code of a run that fails for a cause. -/
def exitCode : Cause → Nat
  | file path obstacle =>
    if Tells "data file not found" path obstacle then 3
    else if Tells "config" path obstacle then 2
    else 1
  | cause => cause.code

/-- No file is the cause, or one that tells nothing that another cause is known by. -/
def Plain (cause : Cause) : Prop :=
  ∀ path obstacle, cause = file path obstacle →
    ¬Tells "data file not found" path obstacle ∧ ¬Tells "config" path obstacle

/-- A cause has the code that is meant for it, unless it is a file that tells of another. -/
theorem exitCode_of_plain {cause : Cause} (h : cause.Plain) : cause.exitCode = cause.code := by
  cases cause with
  | file path obstacle =>
    obtain ⟨hdata, hconfig⟩ := h path obstacle rfl
    rw [exitCode, if_neg hdata, if_neg hconfig, code]
  | settings | noData | content | unknownId => rfl

/-- What an exit code tells of the cause. -/
theorem exitCode_cases (cause : Cause) :
    (cause.exitCode = 2 ↔ cause = settings ∨ ∃ path obstacle, cause = file path obstacle ∧
      Tells "config" path obstacle ∧ ¬Tells "data file not found" path obstacle) ∧
    (cause.exitCode = 3 ↔ cause = noData ∨ ∃ path obstacle, cause = file path obstacle ∧
      Tells "data file not found" path obstacle) ∧
    (cause.exitCode = 4 ↔ cause = content) ∧ (cause.exitCode = 5 ↔ cause = unknownId) ∧
    (cause.exitCode = 1 ↔ ∃ path obstacle, cause = file path obstacle ∧ cause.Plain) := by
  cases cause with
  | file path obstacle =>
    by_cases hdata : Tells "data file not found" path obstacle <;>
      by_cases hconfig : Tells "config" path obstacle <;>
      simp [exitCode, Plain, hdata, hconfig]
  | settings | noData | content | unknownId => simp [exitCode, code]

end Cause

theorem codeOfWords_fileMessage {words : String} (hwords : words ∈ fileWords) (path : String)
    (obstacle : Obstacle) :
    Failure.codeOfWords (words ++ path ++ ": " ++ obstacle.message) =
      (Cause.file path obstacle).exitCode := by
  have hdata : Says "data file not found" (words ++ path ++ ": " ++ obstacle.message) ↔
      Tells "data file not found" path obstacle :=
    says_fileMessage (by simp [tellingPhrases]) hwords path obstacle
  have hconfig : Says "config" (words ++ path ++ ": " ++ obstacle.message) ↔
      Tells "config" path obstacle :=
    says_fileMessage (by simp [tellingPhrases]) hwords path obstacle
  rw [Cause.exitCode, ← if_congr hdata rfl (if_congr hconfig rfl rfl)]
  rfl

/-- The failures that a file causes have the exit code that the trouble with it gives them. -/
theorem Failure.code_of_file (path : String) (obstacle : Obstacle) :
    ∀ failure ∈ [dataUnreadable path obstacle.message, notSaved path obstacle.message,
      folderNotMade path obstacle.message],
        failure.code = (Cause.file path obstacle).exitCode := by
  have hread := codeOfWords_fileMessage (show "Cannot read " ∈ fileWords by decide) path obstacle
  have hwrite := codeOfWords_fileMessage (show "Cannot write " ∈ fileWords by decide) path obstacle
  have hmake := codeOfWords_fileMessage
    (show "Cannot create directory " ∈ fileWords by decide) path obstacle
  simp only [List.forall_mem_cons, List.not_mem_nil, false_imp_iff, implies_true, and_true]
  exact ⟨hread, hwrite, hmake⟩

/-! ### Ids that are not known -/

namespace Graph

/-- An interaction is refused only if a participant is not registered. -/
theorem record_refused (g : Graph) (i : Interaction) :
    (i.employeeA ∉ g.employees ∨ i.employeeB ∉ g.employees) ∧
      (∃ id, g.record i = .error (.unknownEmployee id)) ∨
    ¬(i.employeeA ∉ g.employees ∨ i.employeeB ∉ g.employees) ∧
      ∃ result, g.record i = .ok result := by
  by_cases ha : i.employeeA ∈ g.employees
  · by_cases hb : i.employeeB ∈ g.employees
    · by_cases hab : i.employeeA = i.employeeB <;>
        exact .inr ⟨by simp [ha, hb], by simp [record, append, Except.map, ha, hb, hab]⟩
    · exact .inl ⟨.inr hb, by simp [record, append, Except.map, ha, hb]⟩
  · exact .inl ⟨.inl ha, by simp [record, append, Except.map, ha]⟩

/-- Chat identities belong to registered employees, so an interaction between chat identities that
are known is not refused. -/
theorem Coherent.recordByIdentity_refused {g : Graph} (hg : g.Coherent) (i : Interaction) :
    (g.resolve i.employeeA = none ∨ g.resolve i.employeeB = none) ∧
      (∃ id, g.recordByIdentity i = .error (.unknownIdentity id)) ∨
    ¬(g.resolve i.employeeA = none ∨ g.resolve i.employeeB = none) ∧
      ∃ result, g.recordByIdentity i = .ok result := by
  have hresolve : ∀ {name id : String}, g.resolve name = some id → id ∈ g.employees := by
    intro name id h
    rw [resolve, hg.owners] at h
    obtain ⟨identity, hidentity, rfl⟩ := Option.map_eq_some_iff.1 h
    exact hg.identity_employee hidentity
  rw [recordByIdentity]
  cases ha : g.resolve i.employeeA with
  | none => exact .inl ⟨.inl rfl, _, rfl⟩
  | some a =>
    cases hb : g.resolve i.employeeB with
    | none => exact .inl ⟨.inr rfl, _, rfl⟩
    | some b =>
      refine .inr ⟨by simp, ?_⟩
      rcases g.record_refused { i with employeeA := a, employeeB := b } with ⟨h, -⟩ | ⟨-, h⟩
      · exact absurd h (by simp [hresolve ha, hresolve hb])
      · exact h

end Graph

namespace Task

/-- A task names an employee or a chat identity that is not in the graph. -/
def IsAboutUnknown (g : Graph) : Task → Prop
  | neighbors id .. | top id .. => id ∉ g.employees
  | chain source goal => source ∉ g.employees ∨ goal ∉ g.employees
  | draw .. | summary _ => False
  | record _ source goal _ _ byIdentity =>
    if byIdentity then g.resolve source = none ∨ g.resolve goal = none
    else source ∉ g.employees ∨ goal ∉ g.employees

/-- A response gives up because of an id if there is one that is not known, and else not at all. -/
def GivesUpIf (unknown : Prop) (response : Response) : Prop :=
  unknown ∧ (∃ failure, response = .fail failure ∧ failure.code = Cause.unknownId.code) ∨
    ¬unknown ∧ ∀ failure, response ≠ .fail failure

theorem givesUpIf_aboutEmployees (g : Graph) (ids : List String) (response : Response)
    (h : ∀ failure, response ≠ .fail failure) :
    GivesUpIf (∃ id ∈ ids, id ∉ g.employees) (aboutEmployees g ids response) := by
  rw [aboutEmployees]
  cases hfind : ids.find? (· ∉ g.employees) with
  | none =>
    refine .inr ⟨?_, h⟩
    rintro ⟨id, hid, hnot⟩
    exact List.find?_eq_none.1 hfind id hid (by simpa using hnot)
  | some id =>
    have hnot : id ∉ g.employees := by simpa using List.find?_some hfind
    exact .inl ⟨⟨id, List.mem_of_find?_eq_some hfind, hnot⟩, _, rfl, rfl⟩

theorem respondRecord_of_error {g : Graph} {i : Interaction} {e : GraphError} (byIdentity : Bool)
    (h : (if byIdentity then g.recordByIdentity i else g.record i) = .error e) (data : String) :
    respondRecord data g i byIdentity = .fail (.notRecorded i.issueKey e) := by
  rw [respondRecord, h]

theorem respondRecord_ne_fail {g : Graph} {i : Interaction} {result : Outcome × Graph}
    (byIdentity : Bool)
    (h : (if byIdentity then g.recordByIdentity i else g.record i) = .ok result) (data : String)
    (failure : Failure) : respondRecord data g i byIdentity ≠ .fail failure := by
  obtain ⟨outcome, g'⟩ := result
  rw [respondRecord, h]
  cases outcome <;> exact (nofun)

theorem givesUpIf_respondRecord {g : Graph} (hg : g.Coherent) (data : String) (i : Interaction)
    (byIdentity : Bool) :
    GivesUpIf (if byIdentity then g.resolve i.employeeA = none ∨ g.resolve i.employeeB = none
      else i.employeeA ∉ g.employees ∨ i.employeeB ∉ g.employees)
      (respondRecord data g i byIdentity) := by
  cases byIdentity with
  | false =>
    rcases g.record_refused i with ⟨hunknown, id, h⟩ | ⟨hknown, result, h⟩
    · exact .inl ⟨hunknown, _, respondRecord_of_error false h data, rfl⟩
    · exact .inr ⟨hknown, respondRecord_ne_fail false h data⟩
  | true =>
    rcases hg.recordByIdentity_refused i with ⟨hunknown, id, h⟩ | ⟨hknown, result, h⟩
    · exact .inl ⟨hunknown, _, respondRecord_of_error true h data, rfl⟩
    · exact .inr ⟨hknown, respondRecord_ne_fail true h data⟩

theorem respondNeighbors_ne_fail (now : Time.Timestamp) (g : Graph) (employee : String)
    (days : Option UInt32) (shape : Shape) (failure : Failure) :
    respondNeighbors now g employee days shape ≠ .fail failure := by
  rw [respondNeighbors]
  split
  · exact (nofun)
  · cases shape <;> exact (nofun)

theorem respondDraw_ne_fail (now : Time.Timestamp) (drawing : Drawing.Settings) (g : Graph)
    (format : Format) (days : Option UInt32) (kinds : List Kind) (out : Option String)
    (failure : Failure) : respondDraw now drawing g format days kinds out ≠ .fail failure := by
  rw [respondDraw]
  split
  · exact (nofun)
  · cases out <;> exact (nofun)

/-- Once the graph is there, a task fails only over an id. -/
theorem givesUpIf_respond {g : Graph} (hg : g.Coherent) (now : Time.Timestamp)
    (settings : Settings) (data : String) (task : Task) :
    GivesUpIf (task.IsAboutUnknown g) (task.respond now settings data g) := by
  cases task with
  | neighbors id window shape =>
    have h := givesUpIf_aboutEmployees g [id] _
      (respondNeighbors_ne_fail now g id (window.days settings) shape)
    simpa [IsAboutUnknown, respond] using h
  | top id limit shape =>
    have h := givesUpIf_aboutEmployees g [id] (respondTop g id (limit.getD settings.topLimit) shape)
      (by cases shape <;> exact fun _ => nofun)
    simpa [IsAboutUnknown, respond] using h
  | chain source goal =>
    have h := givesUpIf_aboutEmployees g [source, goal]
      (.say (Listing.chain g source goal (g.chain source goal))) (fun _ => nofun)
    simpa [IsAboutUnknown, respond] using h
  | draw format days kinds out =>
    exact .inr ⟨not_false, respondDraw_ne_fail now settings.drawing g _ days kinds out⟩
  | summary shape => cases shape <;> exact .inr ⟨not_false, fun _ => nofun⟩
  | record issueKey source goal kind time byIdentity =>
    exact givesUpIf_respondRecord hg data
      { issueKey, employeeA := source, employeeB := goal, kind, timestamp := time.getD now }
      byIdentity

end Task

/-! ### What makes a request fail -/

/-- The settings for a task, which are the usual ones where they do not matter. -/
def Task.usedSettings (look : String → Found) (data : String) (settings : Option String)
    (task : Task) : Except Failure Settings :=
  if task.usesSettings then settingsFor look data settings else .ok .standard

/-- The tree in which a file is to be written, with its folder. If that cannot be made, its name is
told, and why. -/
def NewFile.prepare (file : NewFile) (files : Files) : Except (String × Obstacle) Files :=
  match file.folder with
  | none => .ok files
  | some folder =>
    match files.makeFolders folder with
    | (some obstacle, _) => .error (folder, obstacle)
    | (none, files) => .ok files

/-- What is reported about a response that saves a file. -/
theorem Response.carryOut_save_fst (file : NewFile) (output : String) (files : Files) :
    ((save file output).carryOut files).1 =
      match file.prepare files with
      | .error (folder, obstacle) => .ofFailure (.folderNotMade folder obstacle.message)
      | .ok made =>
        match made.save file.path file.content with
        | .error obstacle => .ofFailure (.notSaved file.path obstacle.message)
        | .ok _ => .success output := by
  have hwrite : ∀ made : Files, (file.write output made).1 =
      match made.save file.path file.content with
      | .error obstacle => .ofFailure (.notSaved file.path obstacle.message)
      | .ok _ => .success output := by
    intro made
    rw [NewFile.write]
    cases made.save file.path file.content <;> rfl
  rw [carryOut, NewFile.prepare]
  cases file.folder with
  | none => exact hwrite files
  | some folder =>
    dsimp only
    rcases files.makeFolders folder with ⟨_ | obstacle, made⟩
    · exact hwrite made
    · rfl

namespace Request

variable {now : Time.Timestamp} {files : Files} {request : Request} {cause : Cause}

/-- A request fails on a tree of files, for a cause. The causes stand in the order in which a run
comes to them. -/
inductive Fails (now : Time.Timestamp) (files : Files) : Request → Cause → Prop
  /-- The settings matter and cannot be used. -/
  | settings {data : String} {name : Option String} {task : Task} {failure : Failure}
      (hsettings : task.usedSettings files.look data name = .error failure) :
      Fails now files (onData data name task) .settings
  /-- Nothing is found under the name of the data file. -/
  | noData {data : String} {name : Option String} {task : Task} {settings : Settings}
      (hsettings : task.usedSettings files.look data name = .ok settings)
      (hdata : files.look data = .missing) : Fails now files (onData data name task) .noData
  /-- Something is found there that cannot be read. -/
  | unreadable {data : String} {obstacle : Obstacle} {name : Option String} {task : Task}
      {settings : Settings} (hsettings : task.usedSettings files.look data name = .ok settings)
      (hdata : files.look data = .unreadable obstacle) :
      Fails now files (onData data name task) (.file data obstacle)
  /-- The text of the data file does not load. -/
  | content {data text : String} {name : Option String} {task : Task} {settings : Settings}
      {error : Snapshot.LoadError}
      (hsettings : task.usedSettings files.look data name = .ok settings)
      (hdata : files.look data = .text text) (hload : Snapshot.load text = .error error) :
      Fails now files (onData data name task) .content
  /-- The graph in the data file lacks an id. -/
  | unknownId {data text : String} {name : Option String} {task : Task} {settings : Settings}
      {loaded : Snapshot.Loaded}
      (hsettings : task.usedSettings files.look data name = .ok settings)
      (hdata : files.look data = .text text) (hload : Snapshot.load text = .ok loaded)
      (hid : task.IsAboutUnknown loaded.graph) : Fails now files (onData data name task) .unknownId
  /-- The folder of a file that is to be written cannot be made. -/
  | folder {request : Request} {file : NewFile} {output folder : String} {obstacle : Obstacle}
      (hsave : request.respond now files.look = .save file output)
      (hmade : file.prepare files = .error (folder, obstacle)) :
      Fails now files request (.file folder obstacle)
  /-- The file cannot be written. -/
  | save {request : Request} {file : NewFile} {output : String} {made : Files}
      {obstacle : Obstacle} (hsave : request.respond now files.look = .save file output)
      (hmade : file.prepare files = .ok made)
      (hwrite : made.save file.path file.content = .error obstacle) :
      Fails now files request (.file file.path obstacle)

theorem code_of_settingsFrom {path : String} {found : Found} {failure : Failure}
    (h : settingsFrom path found = .error failure) : failure.code = Cause.settings.code := by
  cases found with
  | missing =>
    obtain rfl := Except.error.inj h
    rfl
  | unreadable obstacle =>
    obtain rfl := Except.error.inj h
    rfl
  | text s =>
    rw [settingsFrom] at h
    cases hread : Settings.read s with
    | error e =>
      rw [hread] at h
      obtain rfl := Except.error.inj h
      rfl
    | ok settings =>
      rw [hread] at h
      cases h

theorem code_of_usedSettings {look : String → Found} {data : String} {name : Option String}
    {task : Task} {failure : Failure} (h : task.usedSettings look data name = .error failure) :
    failure.code = Cause.settings.code := by
  rw [Task.usedSettings] at h
  split at h
  · rw [settingsFor.eq_def] at h
    split at h
    · exact code_of_settingsFrom h
    · split at h
      · cases h
      · exact code_of_settingsFrom h
  · cases h

theorem respond_of_failure {data : String} {name : Option String} {task : Task}
    {failure : Failure} {look : String → Found}
    (h : task.usedSettings look data name = .error failure) (now : Time.Timestamp) :
    (onData data name task).respond now look = .fail failure := by
  rw [Task.usedSettings] at h
  simp only [respond, h]

theorem respond_of_graphFailure {data : String} {name : Option String} {task : Task}
    {settings : Settings} {failure : Failure} {look : String → Found}
    (hsettings : task.usedSettings look data name = .ok settings)
    (hgraph : graphFrom data (look data) = .error failure) (now : Time.Timestamp) :
    (onData data name task).respond now look = .fail failure := by
  rw [Task.usedSettings] at hsettings
  simp only [respond, hsettings, hgraph]

theorem respond_of_load {data text : String} {name : Option String} {task : Task}
    {settings : Settings} {loaded : Snapshot.Loaded} {look : String → Found}
    (hsettings : task.usedSettings look data name = .ok settings) (hdata : look data = .text text)
    (hload : Snapshot.load text = .ok loaded) (now : Time.Timestamp) :
    (onData data name task).respond now look = task.respond now settings data loaded.graph := by
  have hgraph : graphFrom data (look data) = .ok loaded.graph := by
    rw [hdata, graphFrom, hload]
    rfl
  rw [Task.usedSettings] at hsettings
  simp only [respond, hsettings, hgraph]

/-- A run that fails for a cause reports the code of the cause. -/
theorem Fails.code_eq (h : request.Fails now files cause) :
    ∃ failure, ((request.respond now files.look).carryOut files).1 = .ofFailure failure ∧
      failure.code = cause.exitCode := by
  cases h with
  | settings hsettings =>
    refine ⟨_, ?_, code_of_usedSettings hsettings⟩
    rw [respond_of_failure hsettings]
    rfl
  | @noData data _ _ _ hsettings hdata =>
    refine ⟨.dataMissing data, ?_, Failure.code_dataMissing data⟩
    rw [respond_of_graphFailure hsettings (by rw [hdata]; rfl)]
    rfl
  | @unreadable data obstacle _ _ _ hsettings hdata =>
    refine ⟨.dataUnreadable data obstacle.message, ?_,
      Failure.code_of_file data obstacle _ (by simp)⟩
    rw [respond_of_graphFailure hsettings (by rw [hdata]; rfl)]
    rfl
  | @content data text _ _ _ e hsettings hdata hload =>
    refine ⟨.dataMalformed data text e, ?_, rfl⟩
    rw [respond_of_graphFailure hsettings (by rw [hdata, graphFrom, hload]; rfl)]
    rfl
  | @unknownId data text _ task settings loaded hsettings hdata hload hid =>
    rcases Task.givesUpIf_respond (Snapshot.coherent_of_load hload) now settings data task with
      ⟨-, failure, hfail, hcode⟩ | ⟨hknown, -⟩
    · refine ⟨failure, ?_, hcode⟩
      rw [respond_of_load hsettings hdata hload, hfail]
      rfl
    · exact absurd hid hknown
  | @folder _ file output folder obstacle hsave hmade =>
    refine ⟨.folderNotMade folder obstacle.message, ?_,
      Failure.code_of_file folder obstacle _ (by simp)⟩
    rw [hsave, Response.carryOut_save_fst, hmade]
  | @save _ file output made obstacle hsave hmade hwrite =>
    refine ⟨.notSaved file.path obstacle.message, ?_,
      Failure.code_of_file file.path obstacle _ (by simp)⟩
    rw [hsave, Response.carryOut_save_fst, hmade]
    dsimp only
    rw [hwrite]

/-- If a failure is reported there is a cause. -/
theorem exists_fails
    (h : ((request.respond now files.look).carryOut files).1.error ≠ none) :
    ∃ cause, request.Fails now files cause := by
  cases hrespond : request.respond now files.look with
  | say output => exact absurd (by rw [hrespond]; rfl) h
  | crash => exact absurd (by rw [hrespond]; rfl) h
  | save file output =>
    rw [hrespond, Response.carryOut_save_fst] at h
    cases hmade : file.prepare files with
    | error refusal => exact ⟨_, .folder hrespond hmade⟩
    | ok made =>
      cases hwrite : made.save file.path file.content with
      | error obstacle => exact ⟨_, .save hrespond hmade hwrite⟩
      | ok saved => exact absurd (by simp [hmade, hwrite]; rfl) h
  | fail failure =>
    cases request with
    | sample out =>
      rw [respond, respondSample] at hrespond
      split at hrespond <;> cases hrespond
    | onData data name task =>
      cases hsettings : task.usedSettings files.look data name with
      | error failure => exact ⟨_, .settings hsettings⟩
      | ok settings =>
        cases hdata : files.look data with
        | missing => exact ⟨_, .noData hsettings hdata⟩
        | unreadable obstacle => exact ⟨_, .unreadable hsettings hdata⟩
        | text text =>
          cases hload : Snapshot.load text with
          | error e => exact ⟨_, .content hsettings hdata hload⟩
          | ok loaded =>
            rw [respond_of_load hsettings hdata hload] at hrespond
            rcases Task.givesUpIf_respond (Snapshot.coherent_of_load hload) now settings data task
              with ⟨hid, -⟩ | ⟨-, hnot⟩
            · exact ⟨_, .unknownId hsettings hdata hload hid⟩
            · exact absurd hrespond (hnot failure)

end Request

/-! ### Exit codes of runs -/

namespace Files

variable {files files' : Files} {env : Request.Environment} {now : Time.Timestamp}
  {words : List String} {request : Request} {report : Report}

/-- **What the exit codes of runs mean.** A run that fails has a cause. If no file is the cause, or
one with neither of two phrases in its name or in what the system says about it, the exit code is
the one that is meant for the cause, whatever names and ids there are. The files with one of the
phrases are the only others: they are taken for settings or for a data file that is missing. -/
theorem code_run_iff (hrequest : Request.ofArguments env words = .ok request)
    (hrun : files.run env now words = (report, files')) (herror : report.error ≠ none) :
    (∃ cause, request.Fails now files cause) ∧
    (∀ cause, request.Fails now files cause → cause.Plain → report.code = cause.code) ∧
    (report.code = 2 ↔ request.Fails now files .settings ∨
      ∃ path obstacle, request.Fails now files (.file path obstacle) ∧
        Tells "config" path obstacle ∧ ¬Tells "data file not found" path obstacle) ∧
    (report.code = 3 ↔ request.Fails now files .noData ∨
      ∃ path obstacle, request.Fails now files (.file path obstacle) ∧
        Tells "data file not found" path obstacle) ∧
    (report.code = 4 ↔ request.Fails now files .content) ∧
    (report.code = 5 ↔ request.Fails now files .unknownId) ∧
    (report.code = 1 ↔ ∃ path obstacle, request.Fails now files (.file path obstacle) ∧
      (Cause.file path obstacle).Plain) := by
  have hreport : ((request.respond now files.look).carryOut files).1 = report := by
    rw [run, hrequest] at hrun
    exact congrArg Prod.fst hrun
  have hcode : ∀ {cause}, request.Fails now files cause → report.code = cause.exitCode := by
    intro cause hfails
    obtain ⟨failure, hfailure, hcause⟩ := hfails.code_eq
    rw [← hreport, hfailure]
    exact hcause
  have hfails := Request.exists_fails (by rwa [hreport])
  -- a code is reported just if some cause has it, so what is left is about causes only
  have hiff : ∀ n, report.code = n ↔
      ∃ cause, request.Fails now files cause ∧ cause.exitCode = n := by
    intro n
    constructor
    · rintro rfl
      exact hfails.imp fun cause h => ⟨h, (hcode h).symm⟩
    · rintro ⟨cause, h, rfl⟩
      exact hcode h
  refine ⟨hfails, fun cause h hplain => ?_, ?_, ?_, ?_, ?_, ?_⟩
  · rw [hcode h, Cause.exitCode_of_plain hplain]
  · simp [hiff, (Cause.exitCode_cases _).1, and_or_left, exists_or]
  · simp [hiff, (Cause.exitCode_cases _).2.1, and_or_left, exists_or]
  · simp [hiff, (Cause.exitCode_cases _).2.2.1]
  · simp [hiff, (Cause.exitCode_cases _).2.2.2.1]
  · simp [hiff, (Cause.exitCode_cases _).2.2.2.2]

/-- A tree with one entry. -/
def withEntry (name : String) (entry : Entry) : Files :=
  { entries := [([name], entry)] }

/-- 2025-03-01T19:00:00.25Z. -/
def evening : Time.Timestamp :=
  ⟨1740855600, 250000000, by decide, by decide, by decide, by decide⟩

/-- Figures are asked for of a data file that cannot be read. -/
theorem fails_withEntry {name : String} {entry : Entry} {obstacle : Obstacle}
    (h : (withEntry name entry).look name = .unreadable obstacle) :
    (Request.onData name none (.summary .text)).Fails evening (withEntry name entry)
      (.file name obstacle) :=
  .unreadable rfl h

/-- What the system says about a file that is no text. -/
def noText : String :=
  "stream did not contain valid UTF-8"

theorem code_run_iff_plainFile :
    ∃ report files', (withEntry "graph" (.unreadable noText)).run ⟨none, none⟩ evening
      ["stats", "--data", "graph"] = (report, files') ∧ report.error ≠ none ∧
      report.code = 1 := by
  have hrequest : Request.ofArguments ⟨none, none⟩ ["stats", "--data", "graph"] =
      .ok (.onData "graph" none (.summary .text)) := by decide +kernel
  have herror : ((withEntry "graph" (.unreadable noText)).run ⟨none, none⟩ evening
      ["stats", "--data", "graph"]).1.error ≠ none := by decide +kernel
  have hfails := fails_withEntry (show (withEntry "graph" (.unreadable noText)).look "graph" =
    .unreadable (.refused noText) by decide +kernel)
  have hplain : (Cause.file "graph" (.refused noText)).Plain := by
    rintro _ _ ⟨⟩
    decide +kernel
  rcases hrun : (withEntry "graph" (.unreadable noText)).run ⟨none, none⟩ evening
    ["stats", "--data", "graph"] with ⟨report, files'⟩
  rw [hrun] at herror
  obtain ⟨-, hcode, -⟩ := code_run_iff hrequest hrun herror
  exact ⟨report, files', rfl, herror, hcode _ hfails hplain⟩

/-- A data file that is a folder is taken for bad settings if its name has `config` in it. -/
theorem not_code_of_cause : ¬∀ (files files' : Files) (env : Request.Environment)
    (now : Time.Timestamp) (words : List String) (request : Request) (report : Report)
    (cause : Cause), Request.ofArguments env words = .ok request →
      files.run env now words = (report, files') → request.Fails now files cause →
      report.code = cause.code := by
  intro h
  have hrequest : Request.ofArguments ⟨none, none⟩ ["stats", "--data", "config.json"] =
      .ok (.onData "config.json" none (.summary .text)) := by decide +kernel
  have hfails := fails_withEntry (show (withEntry "config.json" .folder).look "config.json" =
    .unreadable .isFolder by decide +kernel)
  have hcode : ((withEntry "config.json" .folder).run ⟨none, none⟩ evening
      ["stats", "--data", "config.json"]).1.code = 2 := by decide +kernel
  have hmeant := h _ _ _ _ _ _ _ _ hrequest rfl hfails
  exact absurd (hcode.symm.trans hmeant) (by decide)

end Files

end Teamwork
