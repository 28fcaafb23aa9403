import Teamwork.Command.Run
import Teamwork.Proofs.Graph.Selections

/-!
# The last so many days

Neighbors and drawings can be asked for the interactions of the last days. The number of days may be
any 32-bit word, which is far more than the calendar has: so many days before today there may be no
timestamp that the program could compare with. Nothing would be lost by that, since all interactions
are later than such a point of time. But the program computes the timestamp first, and breaks down
where there is none.

Points of time are therefore described here apart from timestamps, by a count of seconds that has no
bounds. In these terms it can be said for every number of days which interactions are later, and for
which numbers the program gets so far as to count them. It then counts exactly these.

## Main definitions

* `Timestamp.daysBefore`, `Timestamp.isAfter` — a point of time some days earlier, and what is
  later.
* `Interaction.countsSince` — an interaction is of some kinds and later than a point of time.
* `Task.answerNeighbors`, `Task.answerDraw` — answers as functions of the ties that count.

## Main results

* `Timestamp.minus?_days` — when there is a timestamp so many days earlier, and which.
* `Task.respond_lastDays` — the answers about the last days, and when there is none.
-/

namespace Teamwork

/-! ### Points of time -/

namespace Time.Timestamp

/-- The point of time some days before an instant, in seconds since 1970-01-01T00:00:00Z and
nanoseconds since that second began. There may be no timestamp for it. Earlier days do not have the
leap second that the instant may be in, so there it is the second after it that counts. -/
def daysBefore (t : Timestamp) (days : Nat) : Int × Nat :=
  if t.isLeapSecond ∧ 0 < days then
    (t.second + 1 - days * secondsPerDay, t.nano - nanosPerSecond)
  else
    (t.second - days * secondsPerDay, t.nano)

/-- The instant is strictly later than the point of time. -/
def isAfter (t : Timestamp) (point : Int × Nat) : Bool :=
  point.1 < t.second ∨ point.1 = t.second ∧ point.2 < t.nano

theorem isAfter_iff_lt {t start : Timestamp} {point : Int × Nat} (hsecond : start.second = point.1)
    (hnano : start.nano = point.2) : t.isAfter point = decide (start < t) := by
  rw [isAfter, decide_eq_decide, lt_def, hsecond, hnano]

theorem ofNanos?_eq {nanos second : Int} {nano : Nat}
    (hnanos : nanos = second * nanosPerSecond + nano) (hlt : nano < nanosPerSecond) :
    ofNanos? nanos = ofParts? second nano := by
  simp only [nanosPerSecond, Nat.cast_ofNat] at hnanos hlt
  have hsecond : nanos / 1000000000 = second := by omega
  have hnano : (nanos % 1000000000).toNat = nano := by omega
  rw [ofNanos?, nanosPerSecond, Nat.cast_ofNat, hsecond, hnano]

/-- Going back whole days leads to the point of time so many days earlier. -/
theorem minus?_days (t : Timestamp) (days : Nat) :
    t.minus? ⟨days * secondsPerDay * nanosPerSecond⟩ =
      ofParts? (t.daysBefore days).1 (t.daysBefore days).2 := by
  have hlt := t.nano_lt
  have hleap : t.isLeapSecond = true ↔ nanosPerSecond ≤ t.nano := decide_eq_true_iff
  rw [minus?, daysBefore]
  simp only [hleap, nanosPerSecond, secondsPerDay, Nat.cast_ofNat] at hlt ⊢
  by_cases hnano : 1000000000 ≤ t.nano
  · rcases Nat.eq_zero_or_pos days with hdays | hdays
    · -- no day back, and the leap second is not left
      have hsecond : t.second - days * 86400 = t.second := by omega
      have hback : ((t.nano : Int) - days * 86400 * 1000000000).toNat = t.nano := by omega
      rw [if_neg (by omega), if_pos ⟨hnano, by omega⟩, if_neg (by omega), hsecond, hback]
    · rw [if_neg (by omega), if_neg (by omega), if_pos ⟨hnano, hdays⟩]
      exact ofNanos?_eq (by simp only [nanosPerSecond, Nat.cast_ofNat]; omega)
        (by simp only [nanosPerSecond]; omega)
  · rw [if_neg fun h => hnano h.1, if_neg fun h => hnano h.1, if_neg fun h => hnano h.1]
    exact ofNanos?_eq (by simp only [nanosPerSecond, Nat.cast_ofNat]; omega)
      (by simp only [nanosPerSecond]; omega)

/-- There is a timestamp so many days earlier unless the point of time lies before the first one;
it cannot lie behind the last one. -/
theorem ofParts?_daysBefore (t : Timestamp) (days : Nat) :
    (t.daysBefore days).1 < firstSecond ∧
      ofParts? (t.daysBefore days).1 (t.daysBefore days).2 = none ∨
    firstSecond ≤ (t.daysBefore days).1 ∧ ∃ start,
      ofParts? (t.daysBefore days).1 (t.daysBefore days).2 = some start ∧
      start.second = (t.daysBefore days).1 ∧ start.nano = (t.daysBefore days).2 := by
  have hlt := t.nano_lt
  have hlast := t.le_last
  have hleap : t.isLeapSecond = true ↔ nanosPerSecond ≤ t.nano := decide_eq_true_iff
  have hfits : (t.daysBefore days).1 ≤ lastSecond ∧
      (t.daysBefore days).2 < 2 * nanosPerSecond ∧
      (nanosPerSecond ≤ (t.daysBefore days).2 → (t.daysBefore days).1 % 60 = 59) := by
    have hminute := t.leap
    rw [daysBefore]
    simp only [hleap, nanosPerSecond, secondsPerDay, Nat.cast_ofNat] at hlt hminute ⊢
    split <;> simp only <;> omega
  rw [ofParts?]
  by_cases hfirst : firstSecond ≤ (t.daysBefore days).1
  · exact .inr ⟨hfirst, _, dif_pos ⟨⟨hfirst, hfits.1⟩, hfits.2⟩, rfl, rfl⟩
  · exact .inl ⟨Int.not_le.1 hfirst, dif_neg fun h => hfirst h.1.1⟩

end Time.Timestamp

/-- The interaction is of one of the kinds, or of any if there are none, and strictly later than the
point of time. -/
def Interaction.countsSince (point : Int × Nat) (kinds : List Kind) (i : Interaction) : Bool :=
  i.timestamp.isAfter point && (kinds.isEmpty || kinds.contains i.kind)

/-- No number of days is too great for a span, so only the calendar sets a limit. -/
theorem lastDays?_cases (now : Time.Timestamp) (days : UInt32) :
    (now.daysBefore days.toNat).1 < Time.firstSecond ∧ lastDays? now days = none ∨
    Time.firstSecond ≤ (now.daysBefore days.toNat).1 ∧ ∃ selection,
      lastDays? now days = some selection ∧
      ∀ i, selection.accepts i = i.timestamp.isAfter (now.daysBefore days.toNat) := by
  have hspan : Time.Span.ofDays? days.toNat =
      some ⟨days.toNat * Time.secondsPerDay * Time.nanosPerSecond⟩ := by
    have hdays := days.toNat_lt
    have hshort : (days.toNat * (Time.secondsPerDay * 1000) : Int).natAbs < Nat.pow 2 63 := by
      simp only [Time.secondsPerDay, Nat.cast_ofNat, Nat.pow_eq]
      omega
    have hlength : (days.toNat * (Time.secondsPerDay * 1000) * 1000000 : Int) =
        days.toNat * Time.secondsPerDay * Time.nanosPerSecond := by
      simp only [Time.secondsPerDay, Time.nanosPerSecond, Nat.cast_ofNat]
      omega
    rw [Time.Span.ofDays?, Time.Span.ofMilliseconds?, if_pos hshort, hlength]
  have hlast : lastDays? now days = (Time.Timestamp.ofParts? (now.daysBefore days.toNat).1
      (now.daysBefore days.toNat).2).map Selection.since := by
    rw [lastDays?, hspan, Option.bind_some, Selection.withinLast?, now.minus?_days]
  rw [hlast]
  rcases now.ofParts?_daysBefore days.toNat with ⟨hfirst, hnone⟩ | ⟨hfirst, start, hstart, hs, hn⟩
  · exact .inl ⟨hfirst, by rw [hnone]; rfl⟩
  · refine .inr ⟨hfirst, .since start, by rw [hstart]; rfl, fun i => ?_⟩
    rw [Time.Timestamp.isAfter_iff_lt hs hn, Selection.accepts]

/-- The same with kinds. -/
theorem selectionFor?_cases (now : Time.Timestamp) (days : UInt32) (kinds : List Kind) :
    (now.daysBefore days.toNat).1 < Time.firstSecond ∧
      selectionFor? now (some days) kinds = none ∨
    Time.firstSecond ≤ (now.daysBefore days.toNat).1 ∧ ∃ selection,
      selectionFor? now (some days) kinds = some (some selection) ∧
      ∀ i, selection.accepts i = i.countsSince (now.daysBefore days.toNat) kinds := by
  rw [selectionFor?]
  rcases lastDays?_cases now days with ⟨hfirst, hnone⟩ | ⟨hfirst, selection, hsome, haccepts⟩
  · exact .inl ⟨hfirst, by simp only [hnone]; rfl⟩
  · refine .inr ⟨hfirst, _, by simp only [hsome]; rfl, fun i => ?_⟩
    rw [Interaction.countsSince, ← haccepts]
    cases kinds with
    | nil => simp
    | cons kind kinds => simp [Selection.accepts]

namespace Task

/-- What is answered to the question for neighbors, if these ties count. -/
def answerNeighbors (g : Graph) (employee : String) (days : Option UInt32) (shape : Shape)
    (ties : Ties) : Response :=
  match shape with
  | .text => .say (Listing.neighbors g employee days (ties.row employee))
  | .json => .say (Listing.neighborsJson g (ties.row employee))

/-- What is answered to the wish for a drawing, if these ties count. -/
def answerDraw (drawing : Drawing.Settings) (g : Graph) (format : Format) (out : Option String)
    (ties : Ties) : Response :=
  match out with
  | none => .say (format.draw drawing g.employees ties)
  | some path =>
    let path := if Path.hasExtension path then path else Path.addExtension path format.extension
    .save ⟨path, none, format.draw drawing g.employees ties⟩
      ("Wrote " ++ format.name ++ " export to " ++ path ++ "\n")

theorem respondNeighbors_eq (now : Time.Timestamp) (g : Graph) (employee : String)
    (days : Option UInt32) (shape : Shape) :
    respondNeighbors now g employee days shape = (selectionFor? now days []).elim .crash
      fun selection => answerNeighbors g employee days shape (g.selectedTies selection) := by
  rw [respondNeighbors]
  cases selectionFor? now days [] <;> rfl

theorem respondDraw_eq (now : Time.Timestamp) (drawing : Drawing.Settings) (g : Graph)
    (format : Format) (days : Option UInt32) (kinds : List Kind) (out : Option String) :
    respondDraw now drawing g format days kinds out = (selectionFor? now days kinds).elim .crash
      fun selection => answerDraw drawing g format out (g.selectedTies selection) := by
  rw [respondDraw]
  cases selectionFor? now days kinds <;> rfl

/-- A response about the last days from ties that count the interactions of some kinds later than
the point of time; where no timestamp is so many days before, the program breaks down. -/
def AnswersLastDays (now : Time.Timestamp) (days : UInt32) (kinds : List Kind) (g : Graph)
    (answer : Ties → Response) (response : Response) : Prop :=
  (now.daysBefore days.toNat).1 < Time.firstSecond ∧ response = .crash ∨
  Time.firstSecond ≤ (now.daysBefore days.toNat).1 ∧ ∃ ties : Ties,
    ties.Counts g.employees.keys g.log.toList
      (Interaction.countsSince (now.daysBefore days.toNat) kinds) ∧
    response = answer ties

/-- What is answered from the ties of a selection counts what it selects. -/
theorem answersLastDays_of_selection {g : Graph} (hsize : g.log.size < UInt32.size)
    (now : Time.Timestamp) (days : UInt32) (kinds : List Kind) (answer : Ties → Response) :
    AnswersLastDays now days kinds g answer ((selectionFor? now (some days) kinds).elim .crash
      fun selection => answer (g.selectedTies selection)) := by
  rcases selectionFor?_cases now days kinds with
    ⟨hfirst, hnone⟩ | ⟨hfirst, selection, hsome, haccepts⟩
  · rw [hnone]
    exact .inl ⟨hfirst, rfl⟩
  · rw [hsome]
    refine .inr ⟨hfirst, g.replay selection.accepts, ?_, rfl⟩
    rw [funext haccepts]
    exact Ties.counts_replay (by rwa [Array.length_toList]) _ _

/-- **What is answered about the last days.** For every number of days that can be asked for, in
the words of the command line or in the settings, the answer is made from ties that count exactly
the interactions strictly later than so many days ago, as long as there is a timestamp for that
point of time. Where it lies before the first timestamp the program breaks down. -/
theorem respond_lastDays {g : Graph} (hsize : g.log.size < UInt32.size) (now : Time.Timestamp)
    (settings : Settings) (data : String) (days : UInt32) :
    (∀ employee ∈ g.employees, ∀ window shape, window.days settings = some days →
      AnswersLastDays now days [] g (answerNeighbors g employee (some days) shape)
        ((neighbors employee window shape).respond now settings data g)) ∧
    ∀ format kinds out,
      AnswersLastDays now days kinds g
        (answerDraw settings.drawing g (format.getD settings.drawing.format) out)
        ((draw format (some days) kinds out).respond now settings data g) := by
  refine ⟨fun employee hemployee window shape hwindow => ?_, fun format kinds out => ?_⟩
  · have hfound : [employee].find? (· ∉ g.employees) = none := by simp [hemployee]
    rw [respond, aboutEmployees, hfound, hwindow]
    show AnswersLastDays _ _ _ _ _ (respondNeighbors now g employee (some days) shape)
    rw [respondNeighbors_eq]
    exact answersLastDays_of_selection hsize now days [] _
  · rw [respond, respondDraw_eq]
    exact answersLastDays_of_selection hsize now days kinds _

/-- 2025-03-08T08:00:00.4Z, a tenth of a second less than a week after the one interaction of
`Graph.bugOfTwo`. -/
def weekLater : Time.Timestamp :=
  ⟨1741420800, 400000000, by decide, by decide, by decide, by decide⟩

theorem respond_lastDays_bugOfTwo :
    (Graph.reached Graph.bugOfTwo).log.size < UInt32.size ∧
    "a" ∈ (Graph.reached Graph.bugOfTwo).employees ∧
    Window.recent.days .standard = some 7 ∧
    (∃ ties : Ties, ties.Counts (Graph.reached Graph.bugOfTwo).employees.keys
        (Graph.reached Graph.bugOfTwo).log.toList
        (Interaction.countsSince (weekLater.daysBefore 7) []) ∧
      (neighbors "a" .recent .text).respond weekLater .standard "d" (Graph.reached Graph.bugOfTwo) =
        answerNeighbors (Graph.reached Graph.bugOfTwo) "a" (some 7) .text ties) ∧
    (draw none (some 100000000) [.bug] none).respond weekLater .standard "d"
      (Graph.reached Graph.bugOfTwo) = .crash := by
  have hsize : (Graph.reached Graph.bugOfTwo).log.size < UInt32.size := by decide +kernel
  have hmem : "a" ∈ (Graph.reached Graph.bugOfTwo).employees := by decide +kernel
  have hrange : Time.firstSecond ≤ (weekLater.daysBefore (7 : UInt32).toNat).1 := by decide +kernel
  have hbelow : (weekLater.daysBefore (100000000 : UInt32).toNat).1 < Time.firstSecond := by
    decide +kernel
  obtain ⟨hneighbors, -⟩ := respond_lastDays hsize weekLater .standard "d" 7
  obtain ⟨-, hdraw⟩ := respond_lastDays hsize weekLater .standard "d" 100000000
  refine ⟨hsize, hmem, rfl, ?_, ?_⟩
  · rcases hneighbors "a" hmem .recent .text rfl with ⟨hfirst, -⟩ | ⟨-, hanswer⟩
    · exact absurd hrange (Int.not_le.2 hfirst)
    · exact hanswer
  · rcases hdraw none [.bug] none with ⟨-, hcrash⟩ | ⟨hfirst, -⟩
    · exact hcrash
    · exact absurd hfirst (Int.not_le.2 hbelow)

end Task

namespace Files

/-- A snapshot of one employee. -/
def soloText : String :=
  "\x7b\"employees\":[\x7b\"id\":\"a\"\x7d],\"chatIdentities\":[],\"interactions\":[]\x7d"

/-- A tree with that snapshot. -/
def soloFiles : Files :=
  { entries := [(["d"], .text soloText)] }

/-- Neighbors of the last 2³² - 1 days cannot be asked for, though the number is accepted. -/
theorem not_all_windows_answered : ¬∀ (files : Files) (env : Request.Environment)
    (now : Time.Timestamp) (data text employee : String) (loaded : Snapshot.Loaded) (days : UInt32),
    files.look data = .text text → Snapshot.load text = .ok loaded →
    employee ∈ loaded.graph.employees → 1970 ≤ now.clock.date.year → now.clock.date.year ≤ 9999 →
    (files.run env now ["neighbors", employee, "--data", data, "--since-days",
      toString days.toNat]).1 ≠ .crash := by
  intro h
  have hlook : soloFiles.look "d" = .text soloText := by decide +kernel
  have hmem : (Snapshot.load soloText).toOption.map (fun loaded =>
      decide ("a" ∈ loaded.graph.employees)) = some true := by decide +kernel
  have hcrash : (soloFiles.run ⟨none, none⟩ Task.weekLater
      ["neighbors", "a", "--data", "d", "--since-days",
        toString (4294967295 : UInt32).toNat]).1 = .crash := by decide +kernel
  obtain ⟨loaded, hload, hregistered⟩ := map_toOption_eq_some_iff.1 hmem
  exact h _ ⟨none, none⟩ Task.weekLater "d" soloText "a" loaded 4294967295 hlook hload
    (of_decide_eq_true hregistered) (by decide) (by decide) hcrash

end Files

end Teamwork
