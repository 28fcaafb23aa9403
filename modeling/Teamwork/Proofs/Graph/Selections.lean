import Teamwork.Proofs.Graph.Operations
import Teamwork.Proofs.Ties.Edges

/-!
# What a selection of the log counts

A replay of a log of fewer than 2³² interactions counts exactly: no weight wraps, so an entry is a
number of interactions and nothing else. Whatever holds of numbers of interactions therefore holds
of the ties. They add up when one log is put behind another and when a selection is split in two,
and they grow with the selection.

In a reachable graph every participant of the log is registered. A selection then has the rows of
the live ties, some of them empty, and none of its entries exceeds the live one, because the live
ties are the replay of the selection that accepts everything.

## Main definitions

* `Ties.times` — an entry of a row as a number.
* `Ties.Counts` — the ties count the accepted interactions of a log.
* `Ties.IsSum`, `Ties.Within` — ties compared entry by entry.

## Main results

* `Ties.counts_replay` — a replay counts.
* `Ties.isSum_replay_append`, `Ties.isSum_replay_or` — logs and selections add up.
* `Ties.within_replay` — selections and their ties grow together.
* `Graph.selections_count` — all of this at once, and for the selections from a reachable graph.
-/

namespace Teamwork

namespace Ties

/-! ### Exact weights -/

/-- How often the row of `a` says that `a` worked with `b`. -/
def times (ties : Ties) (a b : String) : Nat :=
  ((ties.weight? a b).getD 0).toNat

/-- The ties count the accepted interactions of a log and have a row for each of the ids. -/
structure Counts (ties : Ties) (ids : List String) (log : List Interaction)
    (accepts : Interaction → Bool) : Prop where
  /-- Both rows of every tie have it, with the same weight. -/
  symmetric : ties.isSymmetric = true
  /-- The rows are those of the ids and of all participants of accepted interactions, but not of
  those between an employee and themselves. -/
  mem_iff : ∀ a, a ∈ ties ↔ a ∈ ids ∨
    ∃ i ∈ log, accepts i = true ∧ i.employeeA ≠ i.employeeB ∧ i.involves a = true
  /-- There is an entry for two different employees that an accepted interaction joins. -/
  isSome_iff : ∀ a b, (ties.weight? a b).isSome ↔
    a ≠ b ∧ ∃ i ∈ log, accepts i = true ∧ i.joins a b = true
  /-- An entry is the number of those interactions. -/
  toNat_eq : ∀ a b, ∀ w ∈ ties.weight? a b,
    w.toNat = log.countP fun i => accepts i && i.joins a b

/-- The first ties are the other two added up. -/
structure IsSum (ties s t : Ties) : Prop where
  /-- The rows are those of both. -/
  mem_iff : ∀ a, a ∈ ties ↔ a ∈ s ∨ a ∈ t
  /-- The entries are those of both. -/
  isSome_iff : ∀ a b, (ties.weight? a b).isSome ↔
    (s.weight? a b).isSome ∨ (t.weight? a b).isSome
  /-- An entry is the sum of the two. -/
  times_eq : ∀ a b, ties.times a b = s.times a b + t.times a b

/-- The first ties have no row and no entry that the others do not have, and no greater weight. -/
structure Within (s t : Ties) : Prop where
  /-- Every row is a row there. -/
  mem : ∀ a, a ∈ s → a ∈ t
  /-- Every entry is an entry there that is at least as great. -/
  weight : ∀ a b, ∀ w ∈ s.weight? a b, ∃ w' ∈ t.weight? a b, w ≤ w'

variable {ids : List String} {log : List Interaction} {accepts : Interaction → Bool}

theorem isSome_weight?_replay {a b : String} :
    ((replay ids log accepts).weight? a b).isSome ↔
      a ≠ b ∧ ∃ i ∈ log, accepts i = true ∧ i.joins a b = true := by
  by_cases hab : a = b
  · simp [hab, weight?_replay_self]
  · rw [weight?_replay _ _ _ hab, isSome_tally, Ne, List.countP_eq_zero]
    simp [hab]

/-- No number of interactions in a log this short is too great for a weight. -/
theorem times_replay (hlog : log.length < UInt32.size) (ids : List String)
    (accepts : Interaction → Bool) (a b : String) :
    (replay ids log accepts).times a b =
      if a = b then 0 else log.countP fun i => accepts i && i.joins a b := by
  rw [times]
  split
  · next hab =>
    rw [hab, weight?_replay_self]
    rfl
  · next hab =>
    rw [weight?_replay _ _ _ hab, toNat_tally,
      Nat.mod_eq_of_lt (Nat.lt_of_le_of_lt List.countP_le_length hlog)]

theorem times_of_weight? {ties : Ties} {a b : String} {w : UInt32} (h : ties.weight? a b = some w) :
    ties.times a b = w.toNat := by
  rw [times, h, Option.getD_some]

/-- **A replay counts**, and it counts exactly if the log is not too long. -/
theorem counts_replay (hlog : log.length < UInt32.size) (ids : List String)
    (accepts : Interaction → Bool) : (replay ids log accepts).Counts ids log accepts where
  symmetric := by
    rw [isSymmetric_iff]
    intro a b
    by_cases hab : a = b
    · rw [hab]
    · rw [weight?_replay _ _ _ hab, weight?_replay _ _ _ (Ne.symm hab)]
      simp only [Interaction.joins_comm _ a b]
  mem_iff a := by
    simp only [mem_replay, Interaction.involves, Bool.or_eq_true, decide_eq_true_eq,
      eq_comm (a := a)]
  isSome_iff a b := isSome_weight?_replay
  toNat_eq a b w hw := by
    have hab : a ≠ b := (isSome_weight?_replay.1 (Option.isSome_of_mem hw)).1
    rw [← times_of_weight? hw, times_replay hlog, if_neg hab]

/-! ### Sums -/

/-- Logs add up when one is put behind the other. -/
theorem isSum_replay_append {front back : List Interaction}
    (hlog : (front ++ back).length < UInt32.size) (ids : List String)
    (accepts : Interaction → Bool) :
    (replay ids (front ++ back) accepts).IsSum (replay ids front accepts)
      (replay ids back accepts) where
  mem_iff a := by
    simp only [mem_replay, List.mem_append]
    grind
  isSome_iff a b := by
    simp only [isSome_weight?_replay, List.mem_append]
    grind
  times_eq a b := by
    rw [List.length_append] at hlog
    rw [times_replay (by rwa [List.length_append]), times_replay (by omega),
      times_replay (by omega), List.countP_append]
    split <;> rfl

/-- Interactions that one of two selections accepts are counted by one of them each, unless both
accept one. -/
theorem countP_or_joins {accepts other : Interaction → Bool}
    (hdisjoint : ∀ i ∈ log, ¬(accepts i = true ∧ other i = true)) (a b : String) :
    (log.countP fun i => (accepts i || other i) && i.joins a b) =
      (log.countP fun i => accepts i && i.joins a b) +
        log.countP fun i => other i && i.joins a b := by
  induction log with
  | nil => rfl
  | cons i log ih =>
    obtain ⟨hi, hrest⟩ := List.forall_mem_cons.1 hdisjoint
    rw [List.countP_cons, List.countP_cons, List.countP_cons, ih hrest]
    cases haccepts : accepts i <;> cases hother : other i
    case true.true => exact absurd ⟨haccepts, hother⟩ hi
    all_goals
      simp only [Bool.or_false, Bool.or_true, Bool.or_self, Bool.true_and, Bool.false_and,
        Bool.false_eq_true, if_false]
      omega

/-- Selections add up if there is no interaction that both accept. -/
theorem isSum_replay_or (hlog : log.length < UInt32.size) (ids : List String)
    {accepts other : Interaction → Bool}
    (hdisjoint : ∀ i ∈ log, ¬(accepts i = true ∧ other i = true)) :
    (replay ids log fun i => accepts i || other i).IsSum (replay ids log accepts)
      (replay ids log other) where
  mem_iff a := by
    simp only [mem_replay, Bool.or_eq_true]
    grind
  isSome_iff a b := by
    simp only [isSome_weight?_replay, Bool.or_eq_true]
    grind
  times_eq a b := by
    rw [times_replay hlog, times_replay hlog, times_replay hlog]
    split
    · rfl
    · exact countP_or_joins hdisjoint a b

/-! ### Growth -/

/-- Selections and their ties grow together. -/
theorem within_replay (hlog : log.length < UInt32.size) (ids : List String)
    {accepts other : Interaction → Bool}
    (himp : ∀ i ∈ log, accepts i = true → other i = true) :
    (replay ids log accepts).Within (replay ids log other) where
  mem a := by
    simp only [mem_replay]
    grind
  weight a b w hw := by
    obtain ⟨hab, i, hi, haccepts, hjoins⟩ := isSome_weight?_replay.1 (Option.isSome_of_mem hw)
    have hsome : ((replay ids log other).weight? a b).isSome :=
      isSome_weight?_replay.2 ⟨hab, i, hi, himp i hi haccepts, hjoins⟩
    obtain ⟨w', hw'⟩ := Option.isSome_iff_exists.1 hsome
    refine ⟨w', hw', UInt32.le_iff_toNat_le.2 ?_⟩
    rw [← times_of_weight? hw, ← times_of_weight? hw', times_replay hlog, times_replay hlog,
      if_neg hab, if_neg hab]
    refine List.countP_mono_left ?_
    intro j hj hjoint
    rw [Bool.and_eq_true] at hjoint ⊢
    exact ⟨himp j hj hjoint.1, hjoint.2⟩

end Ties

/-! ### Reachable graphs -/

namespace Graph

/-- A replay has the rows of the live ties, whatever it accepts. -/
theorem Coherent.keys_replay {g : Graph} (hg : g.Coherent) (accepts : Interaction → Bool) :
    (g.replay accepts).keys = g.ties.keys := by
  refine Keyed.keys_eq_of_mem_iff fun a => ?_
  rw [hg.mem_ties_iff, replay, Ties.mem_replay, Std.ExtTreeMap.mem_keys]
  refine or_iff_left_of_imp ?_
  rintro ⟨i, hi, -, -, rfl | rfl⟩
  · exact (hg.log i hi).1
  · exact (hg.log i hi).2.1

theorem Coherent.within_ties {g : Graph} (hg : g.Coherent) (hsize : g.log.size < UInt32.size)
    (accepts : Interaction → Bool) : (g.replay accepts).Within g.ties := by
  rw [hg.ties]
  exact Ties.within_replay (by rwa [Array.length_toList]) _ fun _ _ _ => rfl

/-- **Selections of a log count its interactions.** -/
theorem selections_count {ids : List String} {log : List Interaction}
    (hlog : log.length < UInt32.size) :
    (∀ accepts, (Ties.replay ids log accepts).Counts ids log accepts) ∧
    (∀ accepts front back, log = front ++ back → (Ties.replay ids log accepts).IsSum
      (Ties.replay ids front accepts) (Ties.replay ids back accepts)) ∧
    (∀ accepts other, (∀ i ∈ log, ¬(accepts i = true ∧ other i = true)) →
      (Ties.replay ids log fun i => accepts i || other i).IsSum
        (Ties.replay ids log accepts) (Ties.replay ids log other)) ∧
    (∀ accepts other, (∀ i ∈ log, accepts i = true → other i = true) →
      (Ties.replay ids log accepts).Within (Ties.replay ids log other)) ∧
    ∀ ops, (reached ops).log.size < UInt32.size → ∀ selection,
      ((reached ops).selectedTies (some selection)).keys = (reached ops).ties.keys ∧
        ((reached ops).selectedTies (some selection)).Within (reached ops).ties := by
  refine ⟨Ties.counts_replay hlog ids, ?_, fun _ _ => Ties.isSum_replay_or hlog ids,
    fun _ _ => Ties.within_replay hlog ids, ?_⟩
  · rintro accepts front back rfl
    exact Ties.isSum_replay_append hlog ids accepts
  · intro ops hsize selection
    have hg := coherent_reached ops
    exact ⟨hg.keys_replay selection.accepts, hg.within_ties hsize selection.accepts⟩

/-- 2025-03-01T08:00:00.5Z. -/
def morning : Time.Timestamp :=
  ⟨1740816000, 500000000, by decide, by decide, by decide, by decide⟩

/-- A log with two interactions of one pair, one of an employee with themselves, and one of another
pair. -/
def mixedLog : List Interaction :=
  [⟨"1", "a", "b", .bug, morning⟩, ⟨"2", "b", "a", .issue, morning⟩,
    ⟨"3", "c", "c", .bug, morning⟩, ⟨"4", "c", "a", .bug, morning⟩]

/-- Two employees who have worked on a bug together. -/
def bugOfTwo : List Operation :=
  [.change (.addEmployee ⟨"a", "", "", ""⟩), .change (.addEmployee ⟨"b", "", "", ""⟩),
    .change (.record ⟨"1", "a", "b", .bug, morning⟩)]

/-- The same two after they have worked on an issue as well. -/
def workOfTwo : List Operation :=
  bugOfTwo ++ [.change (.record ⟨"2", "b", "a", .issue, morning⟩)]

theorem selections_count_mixedLog :
    mixedLog.length < UInt32.size ∧ (reached workOfTwo).log.size < UInt32.size ∧
    (Ties.replay ["z"] mixedLog (Selection.kinds [.bug]).accepts).Counts ["z"] mixedLog
      (Selection.kinds [.bug]).accepts ∧
    (Ties.replay ["z"] mixedLog fun _ => true).IsSum
      (Ties.replay ["z"] (mixedLog.take 2) fun _ => true)
      (Ties.replay ["z"] (mixedLog.drop 2) fun _ => true) ∧
    (Ties.replay ["z"] mixedLog fun i =>
        (Selection.kinds [.bug]).accepts i || (Selection.kinds [.issue]).accepts i).IsSum
      (Ties.replay ["z"] mixedLog (Selection.kinds [.bug]).accepts)
      (Ties.replay ["z"] mixedLog (Selection.kinds [.issue]).accepts) ∧
    (Ties.replay ["z"] mixedLog (Selection.kinds [.bug]).accepts).Within
      (Ties.replay ["z"] mixedLog (Selection.kinds [.bug, .issue]).accepts) ∧
    ((reached workOfTwo).selectedTies (some (.kinds [.bug]))).weight? "a" "b" = some 1 ∧
    (reached workOfTwo).ties.weight? "a" "b" = some 2 ∧
    ((reached workOfTwo).selectedTies (some (.kinds [.bug]))).keys =
      (reached workOfTwo).ties.keys ∧
    ((reached workOfTwo).selectedTies (some (.kinds [.bug]))).Within
      (reached workOfTwo).ties := by
  have hlog : mixedLog.length < UInt32.size := by decide
  have hsize : (reached workOfTwo).log.size < UInt32.size := by decide +kernel
  have hbug : ((reached workOfTwo).selectedTies (some (.kinds [.bug]))).weight? "a" "b" =
      some 1 := by decide +kernel
  have hboth : (reached workOfTwo).ties.weight? "a" "b" = some 2 := by decide +kernel
  obtain ⟨hcounts, happend, hor, hwithin, hreached⟩ := @selections_count ["z"] mixedLog hlog
  exact ⟨hlog, hsize, hcounts _, happend _ _ _ (by decide), hor _ _ (by decide),
    hwithin _ _ (by decide), hbug, hboth, hreached workOfTwo hsize (.kinds [.bug])⟩

end Graph

end Teamwork
