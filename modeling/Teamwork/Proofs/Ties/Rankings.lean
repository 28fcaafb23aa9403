import Mathlib.Data.List.Infix
import Mathlib.Data.List.Nodup
import Teamwork.Proofs.Keyed
import Teamwork.Ties.Ranking

/-!
# A short ranking is the start of the whole one

The entries of a row are ranked by weight and, where weights are equal, by the id at the other end.
No two entries of a row have one id, so the order is strict on them and the row has one ranking.
That is why ties at the place where a ranking is cut off are settled: of the entries with the weight
of the last one listed, those with the lesser ids are in and the others are out.

What a short ranking has to be is said without sorting: as long as was asked for, in order, and
ahead of all that it leaves out. There is one such list only. It is the whole ranking cut off, and
from that all that longer and shorter rankings have to do with each other follows.

## Main definitions

* `Row.RanksBefore` — the order of ranks.
* `Row.IsTop` — what a ranking of some length has to be.
* `Row.ranking` — all entries of a row, ranked.

## Main results

* `Row.eq_ranking` — a row has one ranking.
* `Row.isTop_iff` — a short ranking is the start of the whole one.
* `Row.top_start` — what the closest collaborators are.
-/

namespace Teamwork.Row

/-! ### The order of ranks -/

/-- The first entry ranks before the second: it is heavier, or as heavy and its id is less. -/
def RanksBefore (x y : String × UInt32) : Prop :=
  y.2 < x.2 ∨ x.2 = y.2 ∧ x.1 < y.1

instance (x y : String × UInt32) : Decidable (RanksBefore x y) :=
  inferInstanceAs (Decidable (y.2 < x.2 ∨ x.2 = y.2 ∧ x.1 < y.1))

variable {x y z : String × UInt32}

theorem RanksBefore.trans (hxy : RanksBefore x y) (hyz : RanksBefore y z) : RanksBefore x z := by
  rcases hxy with hxy | ⟨heq, hxy⟩
  · rcases hyz with hyz | ⟨heq, -⟩
    · exact .inl (UInt32.lt_trans hyz hxy)
    · exact .inl (heq ▸ hxy)
  · rcases hyz with hyz | ⟨heq', hyz⟩
    · exact .inl (heq ▸ hyz)
    · exact .inr ⟨heq.trans heq', String.lt_trans hxy hyz⟩

theorem RanksBefore.ne (h : RanksBefore x y) : x ≠ y := by
  rintro rfl
  rcases h with h | ⟨-, h⟩
  · exact UInt32.lt_irrefl _ h
  · exact String.lt_irrefl _ h

theorem RanksBefore.not_swap (h : RanksBefore x y) : ¬RanksBefore y x :=
  fun hswap => (h.trans hswap).ne rfl

/-- Of two entries one ranks before the other, unless they are equal. -/
theorem ranksBefore_trichotomy (x y : String × UInt32) :
    RanksBefore x y ∨ x = y ∨ RanksBefore y x := by
  rcases Std.lt_trichotomy x.2 y.2 with hlt | heq | hlt
  · exact .inr (.inr (.inl hlt))
  · rcases Std.lt_trichotomy x.1 y.1 with hid | hid | hid
    · exact .inl (.inr ⟨heq, hid⟩)
    · exact .inr (.inl (Prod.ext hid heq))
    · exact .inr (.inr (.inr ⟨heq.symm, hid⟩))
  · exact .inl (.inl hlt)

/-- An entry ranks no later than those that it ranks before, and than itself. -/
theorem rankLE_iff : rankLE x y = true ↔ RanksBefore x y ∨ x = y := by
  have hrank : rankLE x y = true ↔ y.2 < x.2 ∨ x.2 = y.2 ∧ x.1 ≤ y.1 := by
    simp only [rankLE, Bool.or_eq_true, Bool.and_eq_true, decide_eq_true_eq]
  rw [hrank]
  constructor
  · rintro (h | ⟨heq, hle⟩)
    · exact .inl (.inl h)
    · rcases Std.le_iff_lt_or_eq.1 hle with hlt | hid
      · exact .inl (.inr ⟨heq, hlt⟩)
      · exact .inr (Prod.ext hid heq)
  · rintro ((h | ⟨heq, hlt⟩) | rfl)
    · exact .inl h
    · exact .inr ⟨heq, Std.le_of_lt hlt⟩
    · exact .inr ⟨rfl, Std.le_refl _⟩

/-! ### The whole ranking -/

/-- All entries of a row, the heaviest first. -/
def ranking (row : Row) : List (String × UInt32) :=
  row.toList.mergeSort rankLE

variable (row : Row)

theorem top_eq_take (limit : Nat) : row.top limit = row.ranking.take limit :=
  rfl

theorem perm_ranking : row.ranking.Perm row.toList :=
  List.mergeSort_perm _ _

theorem length_ranking : row.ranking.length = row.size := by
  rw [row.perm_ranking.length_eq, Std.ExtTreeMap.length_toList]

theorem nodup_ids_ranking : (row.ranking.map (·.1)).Nodup := by
  rw [(row.perm_ranking.map _).nodup_iff, Std.ExtTreeMap.map_fst_toList_eq_keys]
  exact Std.ExtTreeMap.nodup_keys

theorem nodup_ranking : row.ranking.Nodup :=
  List.Nodup.of_map _ row.nodup_ids_ranking

/-- Entries are ranked strictly, since no two of them are equal. -/
theorem pairwise_ranking : row.ranking.Pairwise RanksBefore := by
  have hsorted : row.ranking.Pairwise fun x y => rankLE x y = true := by
    refine List.pairwise_mergeSort ?_ ?_ _
    · intro x y z hxy hyz
      rw [rankLE_iff] at hxy hyz ⊢
      rcases hxy with hxy | rfl
      · rcases hyz with hyz | rfl
        · exact .inl (hxy.trans hyz)
        · exact .inl hxy
      · exact hyz
    · intro x y
      rw [Bool.or_eq_true, rankLE_iff, rankLE_iff]
      rcases ranksBefore_trichotomy x y with h | rfl | h
      · exact .inl (.inl h)
      · exact .inl (.inr rfl)
      · exact .inr (.inl h)
  refine (hsorted.and row.nodup_ranking).imp ?_
  rintro x y ⟨hle, hne⟩
  exact (rankLE_iff.1 hle).resolve_right hne

/-- **A row has one ranking.** -/
theorem eq_ranking {entries : List (String × UInt32)} (hperm : entries.Perm row.toList)
    (hranked : entries.Pairwise RanksBefore) : entries = row.ranking := by
  refine List.Perm.eq_of_pairwise ?_ hranked row.pairwise_ranking
    (hperm.trans row.perm_ranking.symm)
  intro x y _ _ hxy hyx
  exact absurd hyx hxy.not_swap

/-! ### Short rankings -/

/-- The list holds the first `limit` entries of a row by rank, or all if there are no more. -/
structure IsTop (limit : Nat) (entries : List (String × UInt32)) : Prop where
  /-- It is as long as was asked for, if the row is. -/
  length_eq : entries.length = min limit row.size
  /-- Its entries are some of the row, with their weights. -/
  subset : entries ⊆ row.toList
  /-- No id is listed twice. -/
  nodup : (entries.map (·.1)).Nodup
  /-- An entry ranks before those listed after it. -/
  ranked : entries.Pairwise RanksBefore
  /-- An entry of the row that is left out ranks after all that are listed. -/
  ahead : ∀ listed ∈ entries, ∀ entry ∈ row.toList, entry ∉ entries → RanksBefore listed entry

variable {row}

theorem isTop_top (row : Row) (limit : Nat) : row.IsTop limit (row.top limit) where
  length_eq := row.length_top limit
  subset := fun _ hmem => row.perm_ranking.subset (List.mem_of_mem_take hmem)
  nodup := row.nodup_ids_ranking.sublist ((List.take_sublist limit row.ranking).map _)
  ranked := row.pairwise_ranking.sublist (List.take_sublist limit row.ranking)
  ahead := by
    intro listed hlisted entry hentry hout
    -- What is not among the first entries of the ranking is among the others.
    have hsplit : (row.ranking.take limit ++ row.ranking.drop limit).Pairwise RanksBefore := by
      rw [List.take_append_drop]
      exact row.pairwise_ranking
    have hmem : entry ∈ row.ranking.take limit ++ row.ranking.drop limit := by
      rw [List.take_append_drop]
      exact row.perm_ranking.mem_iff.2 hentry
    have hlater : entry ∈ row.ranking.drop limit := (List.mem_append.1 hmem).resolve_left hout
    exact (List.pairwise_append.1 hsplit).2.2 listed hlisted entry hlater

/-- What is ahead of all that it leaves out is the start of the whole ranking: the rest, ranked in
its turn, completes it. -/
theorem IsTop.prefix_ranking {limit : Nat} {entries : List (String × UInt32)}
    (h : row.IsTop limit entries) : entries <+: row.ranking := by
  let others : List (String × UInt32) := row.ranking.filter (· ∉ entries)
  have hperm : (entries ++ others).Perm row.toList := by
    have hlisted : (row.ranking.filter (· ∈ entries)).Perm entries := by
      refine (List.perm_ext_iff_of_nodup (row.nodup_ranking.filter _)
        (List.Nodup.of_map _ h.nodup)).2 ?_
      intro entry
      rw [List.mem_filter, decide_eq_true_eq]
      exact ⟨And.right, fun hmem => ⟨row.perm_ranking.mem_iff.2 (h.subset hmem), hmem⟩⟩
    have hsplit : (row.ranking.filter (· ∈ entries) ++ others).Perm row.ranking := by
      simpa [others] using
        List.filter_append_perm (fun entry => decide (entry ∈ entries)) row.ranking
    exact ((hlisted.symm.append_right others).trans hsplit).trans row.perm_ranking
  have hranked : (entries ++ others).Pairwise RanksBefore := by
    refine List.pairwise_append.2 ⟨h.ranked, row.pairwise_ranking.filter _, ?_⟩
    intro listed hlisted entry hentry
    obtain ⟨hmem, hout⟩ := List.mem_filter.1 hentry
    exact h.ahead listed hlisted entry (row.perm_ranking.subset hmem) (of_decide_eq_true hout)
  rw [← row.eq_ranking hperm hranked]
  exact List.prefix_append entries others

/-- **A short ranking is the start of the whole one.** -/
theorem isTop_iff {limit : Nat} {entries : List (String × UInt32)} :
    row.IsTop limit entries ↔ entries = row.top limit := by
  constructor
  · intro h
    have hlength : entries.length = min limit row.ranking.length := by
      rw [h.length_eq, length_ranking]
    rw [List.prefix_iff_eq_take.1 h.prefix_ranking, hlength, top_eq_take, ← List.take_eq_take_min]
  · rintro rfl
    exact isTop_top row limit

/-- **What the closest collaborators are.** They are the first entries of the row by rank, as many
as were asked for or all there are, and no other list is that. Asking for fewer gives the start of
the list, and asking for at least as many as the row has gives the row. -/
theorem top_start (row : Row) (limit : Nat) :
    (∀ entries, row.IsTop limit entries ↔ entries = row.top limit) ∧
      (∀ fewer ≤ limit, row.top fewer <+: row.top limit) ∧
      (row.size ≤ limit → (row.top limit).Perm row.toList) := by
  refine ⟨fun _ => isTop_iff, ?_, ?_⟩
  · intro fewer hle
    exact List.take_prefix_take_left hle
  · intro hle
    rw [top_eq_take, List.take_of_length_le (row.length_ranking ▸ hle)]
    exact row.perm_ranking

/-- A row with three entries of one weight. -/
def tiedRow : Row :=
  {("ada", 1), ("dee", 2), ("bob", 2), ("cy", 2)}

/-- Of three entries of one weight the two with the lesser ids are listed. -/
theorem top_start_tiedRow :
    tiedRow.IsTop 2 [("bob", 2), ("cy", 2)] ∧ tiedRow.top 2 = [("bob", 2), ("cy", 2)] ∧
      (1 ≤ 2 ∧ tiedRow.top 1 <+: tiedRow.top 2) ∧
      tiedRow.size ≤ 4 ∧ (tiedRow.top 4).Perm tiedRow.toList := by
  have hsize : tiedRow.size ≤ 4 := by decide +kernel
  have hlist : tiedRow.IsTop 2 [("bob", 2), ("cy", 2)] :=
    { length_eq := by decide +kernel
      subset := by decide +kernel
      nodup := by decide +kernel
      ranked := by decide +kernel
      ahead := by decide +kernel }
  obtain ⟨hiff, hfewer, -⟩ := top_start tiedRow 2
  obtain ⟨-, -, hall⟩ := top_start tiedRow 4
  exact ⟨hlist, ((hiff _).1 hlist).symm, ⟨by decide, hfewer 1 (by decide)⟩, hsize, hall hsize⟩

end Teamwork.Row
