import Mathlib.Algebra.BigOperators.Group.List.Basic
import Mathlib.Data.List.Dedup
import Teamwork.Proofs.Graph.Operations
import Teamwork.Proofs.Ties.Edges

/-!
# The figures of a graph, counted in its log

No figure of a graph is counted in its log. The number of pairs and their total weight are read off
the edges, which are read off one row of every tie, and the employees without ties are the empty
rows. That the log gives the same figures is a property of reachable graphs only.

The step that needs an argument is the total. Every interaction of the log is between two different
employees, so it counts for exactly one edge, the one between its pair. As the edges are the
different pairs of the log, each listed once, adding up their weights is adding up how often each
different pair occurs; and that is the length of the log.

## Main definitions

* `Edge.ends` — the pair that an edge is between.
* `Edge.ListPairs` — edges that list the pairs of a log.
* `Graph.Summary.AgreesWith` — figures as they are counted in the registries and the log.

## Main results

* `Edge.ListPairs.perm_dedup`, `Edge.ListPairs.sum_weight` — how many edges there are, and what
  they weigh together.
* `Graph.figures_reached` — the edges and the figures of every reachable graph.
-/

namespace Teamwork

/-! ### Edges and pairs -/

/-- The two ids that an edge is between, the lesser first. -/
def Edge.ends (e : Edge) : String × String :=
  (e.low, e.high)

theorem Edge.Before.ends_ne {e f : Edge} (h : e.Before f) : e.ends ≠ f.ends := by
  rw [Edge.ends, Edge.ends, Ne, Prod.mk.injEq]
  rintro ⟨hlow, hhigh⟩
  rcases h with h | ⟨-, h⟩
  · exact String.lt_irrefl _ (hlow ▸ h)
  · exact String.lt_irrefl _ (hhigh ▸ h)

theorem Edge.nodup_map_ends {edges : List Edge} (h : edges.Pairwise Edge.Before) :
    (edges.map Edge.ends).Nodup :=
  List.pairwise_map.2 (h.imp Edge.Before.ends_ne)

/-- An interaction joins two ids if they are its pair, once they are in order. -/
theorem Interaction.joins_iff_pair_eq {i : Interaction} {a b : String} (h : a < b) :
    i.joins a b = true ↔ i.pair = (a, b) := by
  have hle : a ≤ b := Std.le_of_lt h
  have hpair := i.pair_eq_iff { i with employeeA := a, employeeB := b }
  rw [Interaction.pair, Interaction.pair, if_pos hle] at hpair
  rw [joins_iff, Interaction.pair, hpair]

/-- An interaction between two different employees is between those of its pair, and the first of
them is the lesser. -/
theorem Interaction.pair_fst_lt {i : Interaction} (h : i.employeeA ≠ i.employeeB) :
    i.pair.1 < i.pair.2 := by
  rw [Interaction.pair]
  split
  · next hle => exact Std.lt_of_le_of_ne hle h
  · next hle => exact Std.not_le.1 hle

theorem Interaction.involves_iff {i : Interaction} {id : String} :
    i.involves id = true ↔ ∃ other, i.joins id other = true := by
  simp only [involves, joins_iff, Bool.or_eq_true, decide_eq_true_eq]
  grind

/-- The edges are the pairs of a log: each pair once, the lesser id first, in ascending order, with
the number of interactions between the two. -/
structure Edge.ListPairs (edges : List Edge) (log : List Interaction) : Prop where
  /-- The lesser id is the first. -/
  low_lt : ∀ e ∈ edges, e.low < e.high
  /-- The edges ascend. -/
  ascending : edges.Pairwise Edge.Before
  /-- A pair is listed once if it occurs in the log, and not at all if it does not. -/
  countP_eq : ∀ p, (edges.countP fun e => e.ends = p) =
    if p ∈ log.map Interaction.pair then 1 else 0
  /-- The weight is the number of interactions of the pair. -/
  weight_eq : ∀ e ∈ edges, e.weight.toNat = log.countP fun i => i.pair = e.ends

namespace Edge.ListPairs

variable {edges : List Edge} {log : List Interaction}

/-- The edges are the different pairs of the log. -/
theorem perm_dedup (h : Edge.ListPairs edges log) :
    (edges.map Edge.ends).Perm (log.map Interaction.pair).dedup := by
  refine (List.perm_ext_iff_of_nodup (nodup_map_ends h.ascending) (List.nodup_dedup _)).2 ?_
  intro p
  have hlisted : p ∈ edges.map Edge.ends ↔ 0 < edges.countP fun e => e.ends = p := by
    simp [List.countP_pos_iff]
  rw [hlisted, h.countP_eq, List.mem_dedup]
  split <;> simp_all

/-- If there is one edge for the pair of each interaction, the interactions of all edges together
are those of the log. -/
theorem sum_countP (hone : ∀ i ∈ log, (edges.countP fun e => e.ends = i.pair) = 1) :
    (edges.map fun e => log.countP fun i => i.pair = e.ends).sum = log.length := by
  induction log with
  | nil => simp
  | cons i log ih =>
    obtain ⟨hi, hlog⟩ := List.forall_mem_cons.1 hone
    have hcounts : (edges.map fun e => if i.pair = e.ends then 1 else 0).sum =
        edges.countP fun e => e.ends = i.pair := by
      rw [List.countP_eq_length_filter, List.sum_map_ite]
      simp [eq_comm]
    simp only [List.countP_cons, List.sum_map_add, List.length_cons, ih hlog, decide_eq_true_eq,
      hcounts, hi]

/-- Every interaction counts for one edge, so the weights add up to the length of the log. -/
theorem sum_weight (h : Edge.ListPairs edges log) :
    (edges.map fun e => e.weight.toNat).sum = log.length := by
  rw [List.map_congr_left h.weight_eq, sum_countP]
  intro i hi
  rw [h.countP_eq, if_pos (List.mem_map_of_mem hi)]

end Edge.ListPairs

/-- Every tie of mutual ties is an edge of the network. -/
theorem Ties.Mutual.edges_ofTies {ties : Ties} (h : ties.Mutual) :
    (Network.ofTies ties).edges = ties.edges := by
  refine List.filter_eq_self.2 ?_
  intro e he
  obtain ⟨-, hweight⟩ := Ties.mem_edges.1 he
  have hother := h e.low e.high ▸ hweight
  simp [Ties.mem_of_weight? hweight, Ties.mem_of_weight? hother]

namespace Graph

/-- The figures are those that are counted in the registries and in the log. -/
structure Summary.AgreesWith (s : Summary) (g : Graph) : Prop where
  /-- The employees are those registered. -/
  employees : s.employees = g.employees.size
  /-- The chat identities are those registered. -/
  identities : s.identities = g.identities.size
  /-- The interactions are those of the log. -/
  interactions : s.interactions = g.log.size
  /-- The edges are the different pairs of the log. -/
  edges : s.edges = (g.log.toList.map Interaction.pair).dedup.length
  /-- Their weights add up to the length of the log. -/
  totalWeight : s.totalWeight = g.log.size
  /-- The isolated employees are those registered who take part in no interaction. -/
  isolated : s.isolated = g.employees.keys.countP fun id => g.log.toList.all fun i => !i.involves id

variable {g : Graph}

/-- **The edges are the pairs of the log.** -/
theorem Coherent.listPairs_edges (hg : g.Coherent) (hsize : g.log.size < UInt32.size) :
    Edge.ListPairs g.ties.edges g.log.toList where
  low_lt e he := (Ties.mem_edges.1 he).1
  ascending := g.ties.pairwise_edges
  countP_eq p := by
    have hmem : p ∈ g.ties.edges.map Edge.ends ↔ p ∈ g.log.toList.map Interaction.pair := by
      rw [List.mem_map, List.mem_map]
      constructor
      · rintro ⟨e, he, rfl⟩
        obtain ⟨hlt, hweight⟩ := Ties.mem_edges.1 he
        obtain ⟨i, hi, hjoins⟩ := (hg.consistent.tied_iff e.low e.high (String.ne_of_lt hlt)).1
          (Option.isSome_of_mem hweight)
        exact ⟨i, hi, (Interaction.joins_iff_pair_eq hlt).1 hjoins⟩
      · rintro ⟨i, hi, rfl⟩
        have hlt := Interaction.pair_fst_lt (hg.log i hi).2.2
        obtain ⟨w, hw⟩ := Option.isSome_iff_exists.1
          ((hg.consistent.tied_iff i.pair.1 i.pair.2 (String.ne_of_lt hlt)).2
            ⟨i, hi, (Interaction.joins_iff_pair_eq hlt).2 rfl⟩)
        exact ⟨⟨i.pair.1, i.pair.2, w⟩, Ties.mem_edges.2 ⟨hlt, hw⟩, rfl⟩
    have hcount : (g.ties.edges.countP fun e => e.ends = p) =
        (g.ties.edges.map Edge.ends).count p := by
      rw [List.count, List.countP_map]
      refine List.countP_congr fun e _ => ?_
      simp
    rw [hcount, (Edge.nodup_map_ends g.ties.pairwise_edges).count]
    simp only [hmem]
  weight_eq e he := by
    obtain ⟨hlt, hweight⟩ := Ties.mem_edges.1 he
    have hlog : (g.log.toList.countP fun i => i.joins e.low e.high) < UInt32.size :=
      Nat.lt_of_le_of_lt List.countP_le_length hsize
    rw [hg.consistent.counts e.low e.high (String.ne_of_lt hlt) e.weight hweight hlog]
    refine List.countP_congr fun i _ => ?_
    rw [Interaction.joins_iff_pair_eq hlt, decide_eq_true_eq, Edge.ends]

/-- An employee has an empty row if no interaction of the log involves them. -/
theorem Coherent.isEmpty_row (hg : g.Coherent) (id : String) :
    (g.ties.row id).isEmpty = g.log.toList.all fun i => !i.involves id := by
  rw [Bool.eq_iff_iff, Std.ExtTreeMap.isEmpty_iff, List.all_eq_true]
  constructor
  · intro hempty i hi
    rw [Bool.not_eq_true', ← Bool.not_eq_true, Interaction.involves_iff]
    rintro ⟨other, hjoins⟩
    have hne : id ≠ other := (Interaction.ne_iff_of_joins hjoins).1 (hg.log i hi).2.2
    have hsome := (hg.consistent.tied_iff id other hne).2 ⟨i, hi, hjoins⟩
    rw [Ties.weight?, hempty, Std.ExtTreeMap.getElem?_empty] at hsome
    cases hsome
  · intro hnone
    refine Std.ExtTreeMap.ext_getElem? fun other => ?_
    rw [Std.ExtTreeMap.getElem?_empty, ← Option.not_isSome_iff_eq_none]
    intro hsome
    have hne : id ≠ other := by
      rintro rfl
      have hself := hg.weight?_ties_self id
      rw [Ties.weight?] at hself
      simp [hself] at hsome
    obtain ⟨i, hi, hjoins⟩ := (hg.consistent.tied_iff id other hne).1 hsome
    have hinvolves := Interaction.involves_iff.2 ⟨other, hjoins⟩
    simpa [hinvolves] using hnone i hi

/-- Empty rows are counted by the employees they belong to. -/
theorem Coherent.countP_values (hg : g.Coherent) :
    g.ties.values.countP (·.isEmpty) =
      g.employees.keys.countP fun id => g.log.toList.all fun i => !i.involves id := by
  rw [Keyed.values_eq_map, List.countP_map, ← hg.consistent.rows,
    ← Std.ExtTreeMap.map_fst_toList_eq_keys, List.countP_map]
  refine List.countP_congr fun p hp => ?_
  have hrow : g.ties.row p.1 = p.2 := by
    rw [Ties.row, Std.ExtTreeMap.mem_toList_iff_getElem?_eq_some.1 hp, Option.getD_some]
  rw [Function.comp_apply, Function.comp_apply, ← hrow, hg.isEmpty_row]

theorem Coherent.summary_agreesWith (hg : g.Coherent) (hsize : g.log.size < UInt32.size) :
    g.summary.AgreesWith g where
  employees := by
    rw [summary, ← Std.ExtTreeMap.length_keys, hg.consistent.rows, Std.ExtTreeMap.length_keys]
  identities := rfl
  interactions := rfl
  edges := by
    have hpairs := hg.listPairs_edges hsize
    rw [← hpairs.perm_dedup.length_eq, List.length_map, summary,
      Ties.Mutual.edges_ofTies hg.consistent.symmetric]
  totalWeight := by
    have hpairs := hg.listPairs_edges hsize
    rw [summary, Ties.Mutual.edges_ofTies hg.consistent.symmetric, ← Array.length_toList,
      ← hpairs.sum_weight, List.sum_eq_foldl, List.foldl_map]
  isolated := hg.countP_values

/-- **The figures of a reachable graph agree with its log.** -/
theorem figures_reached (ops : List Operation) (hsize : (reached ops).log.size < UInt32.size) :
    Edge.ListPairs (reached ops).ties.edges (reached ops).log.toList ∧
      (reached ops).summary.AgreesWith (reached ops) :=
  ⟨(coherent_reached ops).listPairs_edges hsize, (coherent_reached ops).summary_agreesWith hsize⟩

/-- 2025-03-01T12:00:00.125Z. -/
def noon : Time.Timestamp :=
  ⟨1740830400, 125000000, by decide, by decide, by decide, by decide⟩

/-- Four employees, one of whom works with nobody, and three interactions of two pairs. -/
def twoPairs : List Operation :=
  (["c", "z", "b", "a"].map fun id => .change (.addEmployee ⟨id, "", "", ""⟩)) ++
    [("a", "b"), ("c", "a"), ("z", "z"), ("b", "a")].map fun (a, b) =>
      .change (.record ⟨"1", a, b, .bug, noon⟩)

theorem figures_reached_twoPairs :
    (reached twoPairs).log.size < UInt32.size ∧
    (reached twoPairs).ties.edges = [⟨"a", "b", 2⟩, ⟨"a", "c", 1⟩] ∧
    (reached twoPairs).summary = ⟨4, 0, 3, 2, 3, 1, 2⟩ ∧
    Edge.ListPairs (reached twoPairs).ties.edges (reached twoPairs).log.toList ∧
    (reached twoPairs).summary.AgreesWith (reached twoPairs) := by
  have hsize : (reached twoPairs).log.size < UInt32.size := by decide +kernel
  exact ⟨hsize, by decide +kernel, by decide +kernel, figures_reached twoPairs hsize⟩

end Graph

end Teamwork
