import Mathlib.Algebra.BigOperators.Group.List.Basic
import Mathlib.Algebra.Order.Ring.Nat
import Mathlib.Data.List.Basic
import Mathlib.Data.List.Nodup
import Teamwork.Proofs.Keyed
import Teamwork.Proofs.Ties.Counting
import Teamwork.Proofs.Ties.Walks
import Teamwork.Ties.Network

/-!
# The edges of symmetric ties

A list of edges takes every tie from the row of its lesser end. Where both rows of every tie agree,
nothing is lost in this way: each end of a tie finds the tie among the edges, whichever of the two
rows it was taken from. So the edges at an employee are the entries of the employee's row, an entry
under the employee's own id left out.

## Main definitions

* `Edge.Before` — the order in which edges are listed.
* `Ties.Mutual` — both rows of every tie have it, with the same weight.

## Main results

* `Ties.pairwise_edges` — edges are listed in strictly ascending order.
* `Ties.Mutual.mem_edges_ofTies`, `Ties.Mutual.degree_ofTies` — the edges at an employee.
* `Network.sum_degree` — every edge has two ends.
-/

namespace Teamwork

/-- The first edge is listed before the second: its lesser end is less or, if that is the same, its
greater end. -/
def Edge.Before (e f : Edge) : Prop :=
  e.low < f.low ∨ e.low = f.low ∧ e.high < f.high

/-- The end of an edge that is not `id`. -/
def Edge.otherEnd (e : Edge) (id : String) : String :=
  if e.low = id then e.high else e.low

theorem Edge.Before.ne {e f : Edge} (h : e.Before f) : e ≠ f := by
  rintro rfl
  rcases h with h | ⟨-, h⟩ <;> exact String.lt_irrefl _ h

namespace Ties

theorem pairwise_upperEdges (low : String) (row : Row) :
    (upperEdges low row).Pairwise Edge.Before := by
  rw [upperEdges, List.pairwise_map]
  exact ((Keyed.pairwise_toList row).filter _).imp fun h => .inr ⟨rfl, h⟩

/-- **Edges are listed in strictly ascending order.** -/
theorem pairwise_edges (ties : Ties) : ties.edges.Pairwise Edge.Before := by
  rw [edges, List.pairwise_flatMap]
  refine ⟨fun p _ => pairwise_upperEdges p.1 p.2, (Keyed.pairwise_toList ties).imp ?_⟩
  intro p q hlt e he f hf
  obtain ⟨_, -, rfl⟩ := List.mem_map.1 he
  obtain ⟨_, -, rfl⟩ := List.mem_map.1 hf
  exact .inl hlt

theorem nodup_edges (ties : Ties) : ties.edges.Nodup :=
  ties.pairwise_edges.imp Edge.Before.ne

/-! ### Symmetric ties -/

theorem mem_row_iff {ties : Ties} {a b : String} :
    b ∈ ties.row a ↔ ∃ w, ties.weight? a b = some w := by
  rw [Std.ExtTreeMap.mem_iff_isSome_getElem?, Option.isSome_iff_exists, weight?]

theorem mem_of_weight? {ties : Ties} {a b : String} {w : UInt32} (h : ties.weight? a b = some w) :
    a ∈ ties := by
  by_contra hnot
  rw [weight?_of_not_mem hnot] at h
  cases h

/-- Both rows of every tie have it, with the same weight. -/
def Mutual (ties : Ties) : Prop :=
  ∀ a b, ties.weight? a b = ties.weight? b a

theorem isSymmetric_iff {ties : Ties} : ties.isSymmetric = true ↔ ties.Mutual := by
  have hsome : ties.isSymmetric = true ↔
      ∀ a b w, ties.weight? a b = some w → ties.weight? b a = some w := by
    simp only [isSymmetric, List.all_eq_true, Prod.forall, decide_eq_true_eq,
      Std.ExtTreeMap.mem_toList_iff_getElem?_eq_some]
    constructor
    · intro h a b w hw
      obtain ⟨row, hrow⟩ := Option.isSome_iff_exists.1
        (Std.ExtTreeMap.mem_iff_isSome_getElem?.1 (mem_of_weight? hw))
      rw [weight?_eq, hrow] at hw
      exact h a row hrow b w hw
    · intro h a row hrow b w hw
      refine h a b w ?_
      rw [weight?_eq, hrow]
      exact hw
  rw [hsome]
  constructor
  · intro h a b
    refine Option.ext fun w => ?_
    exact ⟨h a b w, h b a w⟩
  · intro h a b w hw
    rw [h b a, hw]

namespace Mutual

variable {ties : Ties}

theorem mem_row_comm (h : ties.Mutual) {a b : String} : b ∈ ties.row a ↔ a ∈ ties.row b := by
  rw [mem_row_iff, mem_row_iff, h a b]

/-- Both ends of a tie are nodes, so no tie is left out of the network. -/
theorem mem_edges_ofTies (h : ties.Mutual) {e : Edge} :
    e ∈ (Network.ofTies ties).edges ↔
      e.low < e.high ∧ ties.weight? e.low e.high = some e.weight := by
  rw [Network.mem_edges_ofTies]
  refine and_congr_right fun _ => ⟨And.left, fun hw => ⟨hw, mem_of_weight? hw, ?_⟩⟩
  rw [h] at hw
  exact mem_of_weight? hw

/-- Edges of the network with the same ends are equal. -/
theorem eq_of_ends_eq (h : ties.Mutual) {e f : Edge} (he : e ∈ (Network.ofTies ties).edges)
    (hf : f ∈ (Network.ofTies ties).edges) (hlow : e.low = f.low) (hhigh : e.high = f.high) :
    e = f := by
  have hweight := (h.mem_edges_ofTies.1 he).2.symm.trans
    (hlow ▸ hhigh ▸ (h.mem_edges_ofTies.1 hf).2)
  cases e
  cases f
  simp_all

/-- Edges at `id` with the same other end are equal. -/
theorem eq_of_otherEnd_eq (h : ties.Mutual) {id : String} {e f : Edge}
    (he : e ∈ (Network.ofTies ties).edges) (hf : f ∈ (Network.ofTies ties).edges)
    (heid : e.low = id ∨ e.high = id) (hfid : f.low = id ∨ f.high = id)
    (hother : e.otherEnd id = f.otherEnd id) : e = f := by
  have hlte := (h.mem_edges_ofTies.1 he).1
  have hltf := (h.mem_edges_ofTies.1 hf).1
  have hends : e.low = f.low ∧ e.high = f.high := by
    rw [Edge.otherEnd, Edge.otherEnd] at hother
    grind
  exact h.eq_of_ends_eq he hf hends.1 hends.2

/-- An edge with an end `id` is the tie that the row of `id` has with the other end. -/
theorem mem_edges_and_iff (h : ties.Mutual) {id x : String} :
    (∃ e ∈ (Network.ofTies ties).edges, (e.low = id ∨ e.high = id) ∧ e.otherEnd id = x) ↔
      x ∈ ties.row id ∧ x ≠ id := by
  simp only [h.mem_edges_ofTies, Edge.otherEnd]
  constructor
  · rintro ⟨e, ⟨hlt, hw⟩, rfl | rfl, rfl⟩
    · rw [if_pos rfl]
      exact ⟨mem_row_iff.2 ⟨_, hw⟩, (String.ne_of_lt hlt).symm⟩
    · rw [if_neg (String.ne_of_lt hlt)]
      exact ⟨mem_row_iff.2 ⟨_, h e.low e.high ▸ hw⟩, String.ne_of_lt hlt⟩
  · rintro ⟨hx, hne⟩
    obtain ⟨w, hw⟩ := mem_row_iff.1 hx
    rcases Std.lt_trichotomy x id with hlt | heq | hlt
    · exact ⟨⟨x, id, w⟩, ⟨hlt, h id x ▸ hw⟩, .inr rfl, if_neg hne⟩
    · exact absurd heq hne
    · exact ⟨⟨id, x, w⟩, ⟨hlt, hw⟩, .inl rfl, if_pos rfl⟩

/-- Each entry of the row of `id`, one under `id` itself left out, is the other end of one of the
edges at `id`, and of no other of them. -/
theorem degree_ofTies (h : ties.Mutual) (id : String) :
    (Network.ofTies ties).degree id = (ties.neighbors id).countP (· ≠ id) := by
  have hends : (((Network.ofTies ties).edges.filter fun e => e.low = id || e.high = id).map
      (·.otherEnd id)).Perm ((ties.neighbors id).filter (· ≠ id)) := by
    refine (List.perm_ext_iff_of_nodup ?_ (Std.ExtTreeMap.nodup_keys.filter _)).2 ?_
    · refine List.Nodup.map_on ?_ ((ties.nodup_edges.filter _).filter _)
      intro e he f hf hother
      simp only [List.mem_filter, Bool.or_eq_true, decide_eq_true_eq] at he hf
      exact h.eq_of_otherEnd_eq he.1 hf.1 he.2 hf.2 hother
    · intro x
      rw [List.mem_map, List.mem_filter, decide_eq_true_eq, Std.ExtTreeMap.mem_keys,
        ← h.mem_edges_and_iff]
      simp only [List.mem_filter, Bool.or_eq_true, decide_eq_true_eq, and_assoc]
  rw [Network.degree, List.countP_eq_length_filter, List.countP_eq_length_filter, ← hends.length_eq,
    List.length_map]

end Mutual

end Ties

/-! ### Both ends of every edge -/

namespace Network

/-- Exactly two nodes are ends of an edge. -/
theorem countP_ends {nodes : List String} (hnodes : nodes.Nodup) {e : Edge} (hne : e.low ≠ e.high)
    (hlow : e.low ∈ nodes) (hhigh : e.high ∈ nodes) :
    (nodes.countP fun id => e.low = id || e.high = id) = 2 := by
  rw [List.countP_eq_length_filter]
  have hends : (nodes.filter fun id => e.low = id || e.high = id).Perm [e.low, e.high] := by
    refine (List.perm_ext_iff_of_nodup (hnodes.filter _) (by simpa using hne)).2 ?_
    intro id
    simp only [List.mem_filter, Bool.or_eq_true, decide_eq_true_eq, List.mem_cons,
      List.not_mem_nil, or_false]
    grind
  rw [hends.length_eq]
  rfl

/-- **The degrees of all nodes add up to twice the number of edges.** -/
theorem sum_degree {net : Network} (hnodes : net.nodes.Nodup)
    (hedges : ∀ e ∈ net.edges, e.low ≠ e.high ∧ e.low ∈ net.nodes ∧ e.high ∈ net.nodes) :
    (net.nodes.map fun id => net.degree id).sum = 2 * net.edges.length := by
  obtain ⟨nodes, edges⟩ := net
  induction edges with
  | nil => simp [degree]
  | cons e edges ih =>
    obtain ⟨⟨hne, hlow, hhigh⟩, hedges⟩ := List.forall_mem_cons.1 hedges
    have hsum := ih hnodes hedges
    have hends := countP_ends hnodes hne hlow hhigh
    have hones : (nodes.map fun id => if (e.low = id || e.high = id) = true then 1 else 0).sum =
        nodes.countP fun id => e.low = id || e.high = id := by
      rw [List.countP_eq_length_filter, List.sum_map_ite]
      simp
    simp only [degree] at hsum ⊢
    simp only [List.countP_cons, List.sum_map_add, List.length_cons, hsum, hones, hends]
    omega

end Network

end Teamwork
