import Mathlib.Data.List.Nodup
import Mathlib.Logic.Relation
import Mathlib.SetTheory.Cardinal.Finite
import Teamwork.Proofs.Ties.Edges
import Teamwork.Proofs.Ties.Walks

/-!
# Groups of connected employees

There are two ways to ask who is connected. The groups of a network are found from its list of
edges, by merging; a chain is searched for in the rows, where every tie stands twice and an id may
be tied to itself. Where both rows of every tie agree the two answers are the same.

The groups are described by what they are for: `Classes` says that lists of nodes are the classes of
a relation. One edge more makes one relation more out of the old one, in which everything that was
related to one of its ends is now related to everything else of that kind, and this is what a merge
does to the lists. Lists that are the classes of a relation are as many as it has classes, whatever
way they were found.

## Main definitions

* `Network.Linked` — connected by a list of edges, in any direction.
* `Classes` — lists that are the classes of a relation.

## Main results

* `Classes.merge`, `Network.classes_groups` — the groups are the classes of connected nodes.
* `Classes.length_eq_card` — there are as many lists as classes.
* `Network.linked_iff_leads` — connected by edges or by a walk.
* `Network.groups_by_chains` — degrees, groups and chains agree.
-/

namespace Teamwork

/-! ### Connected by edges -/

namespace Network

/-- Connected by edges of a list, which may be gone in both directions. -/
def Linked (edges : List Edge) : String → String → Prop :=
  Relation.EqvGen fun a b => ∃ e ∈ edges, e.low = a ∧ e.high = b

theorem equivalence_linked (edges : List Edge) : Equivalence (Linked edges) :=
  Relation.EqvGen.is_equivalence _

theorem linked_nil {a b : String} : Linked [] a b ↔ a = b := by
  constructor
  · intro h
    induction h with
    | rel a b h => simp at h
    | refl => rfl
    | symm _ _ _ ih => exact ih.symm
    | trans _ _ _ _ _ ih ih' => exact ih.trans ih'
  · rintro rfl
    exact (equivalence_linked []).refl a

theorem linked_of_mem {edges : List Edge} {e : Edge} (he : e ∈ edges) :
    Linked edges e.low e.high :=
  .rel _ _ ⟨e, he, rfl, rfl⟩

theorem Linked.mono {edges edges' : List Edge} (h : ∀ e ∈ edges, e ∈ edges') {a b : String}
    (hab : Linked edges a b) : Linked edges' a b := by
  refine Relation.EqvGen.mono ?_ a b hab
  rintro a b ⟨e, he, hends⟩
  exact ⟨e, h e he, hends⟩

end Network

/-- Related to one of two things. -/
def Near (r : String → String → Prop) (a b c : String) : Prop :=
  r c a ∨ r c b

/-- One edge more connects everything that was connected to one of its ends. -/
theorem Network.linked_concat_iff {edges : List Edge} {e : Edge} {a b : String} :
    Linked (edges ++ [e]) a b ↔ Linked edges a b ∨
      Near (Linked edges) e.low e.high a ∧ Near (Linked edges) e.low e.high b := by
  have hr := equivalence_linked edges
  have hr' := equivalence_linked (edges ++ [e])
  have near_of_linked : ∀ {c d}, Linked edges c d → Near (Linked edges) e.low e.high d →
      Near (Linked edges) e.low e.high c :=
    fun hcd => Or.imp (hr.trans hcd) (hr.trans hcd)
  constructor
  · intro h
    induction h with
    | rel a b h =>
      obtain ⟨f, hf, rfl, rfl⟩ := h
      rcases List.mem_append.1 hf with hf | hf
      · exact .inl (linked_of_mem hf)
      · rw [List.mem_singleton.1 hf]
        exact .inr ⟨.inl (hr.refl _), .inr (hr.refl _)⟩
    | refl a => exact .inl (hr.refl a)
    | symm _ _ _ ih => exact ih.imp hr.symm And.symm
    | trans a b c _ _ ih ih' =>
      rcases ih with hab | ⟨ha, hb⟩
      · rcases ih' with hbc | ⟨hb, hc⟩
        · exact .inl (hr.trans hab hbc)
        · exact .inr ⟨near_of_linked hab hb, hc⟩
      · rcases ih' with hbc | ⟨-, hc⟩
        · exact .inr ⟨ha, near_of_linked (hr.symm hbc) hb⟩
        · exact .inr ⟨ha, hc⟩
  · have hold : ∀ {c d}, Linked edges c d → Linked (edges ++ [e]) c d :=
      Linked.mono fun f hf => List.mem_append_left _ hf
    have hends : Linked (edges ++ [e]) e.high e.low :=
      hr'.symm (linked_of_mem (List.mem_append_right _ (List.mem_singleton_self e)))
    have hlow : ∀ {c}, Near (Linked edges) e.low e.high c → Linked (edges ++ [e]) c e.low := by
      rintro c (hc | hc)
      · exact hold hc
      · exact hr'.trans (hold hc) hends
    rintro (hab | ⟨ha, hb⟩)
    · exact hold hab
    · exact hr'.trans (hlow ha) (hr'.symm (hlow hb))

/-! ### Classes -/

/-- The lists are the classes of a relation on the nodes. -/
structure Classes (nodes : List String) (r : String → String → Prop)
    (groups : List (List String)) : Prop where
  /-- Every node is in one of them, and in one only. -/
  perm : groups.flatten.Perm nodes
  /-- None of them is empty. -/
  ne_nil : ∀ group ∈ groups, group ≠ []
  /-- Each has all nodes that are related to one of its own. -/
  mem_iff : ∀ group ∈ groups, ∀ a ∈ group, ∀ b, b ∈ group ↔ b ∈ nodes ∧ r a b

namespace Classes

variable {nodes : List String} {r : String → String → Prop} {groups : List (List String)}

theorem exists_mem (h : Classes nodes r groups) {a : String} (ha : a ∈ nodes) :
    ∃ group ∈ groups, a ∈ group :=
  List.mem_flatten.1 (h.perm.mem_iff.2 ha)

theorem mem_nodes (h : Classes nodes r groups) {group : List String} (hgroup : group ∈ groups)
    {a : String} (ha : a ∈ group) : a ∈ nodes :=
  h.perm.mem_iff.1 (List.mem_flatten.2 ⟨group, hgroup, ha⟩)

/-- A group has one of two nodes if and only if its members are related to one of them. -/
theorem near_iff (h : Classes nodes r groups) {a b : String} (ha : a ∈ nodes) (hb : b ∈ nodes)
    {group : List String} (hgroup : group ∈ groups) {c : String} (hc : c ∈ group) :
    Near r a b c ↔ a ∈ group ∨ b ∈ group := by
  rw [h.mem_iff group hgroup c hc, h.mem_iff group hgroup c hc, Near]
  simp only [ha, hb, true_and]

/-- What is related to something near is near. -/
theorem near_of_rel (h : Classes nodes r groups) {a b : String} (ha : a ∈ nodes) (hb : b ∈ nodes)
    {c d : String} (hc : c ∈ nodes) (hd : d ∈ nodes) (hrel : r c d) (hnear : Near r a b c) :
    Near r a b d := by
  obtain ⟨group, hgroup, hmem⟩ := h.exists_mem hc
  have hd : d ∈ group := (h.mem_iff group hgroup c hmem d).2 ⟨hd, hrel⟩
  exact (h.near_iff ha hb hgroup hd).2 ((h.near_iff ha hb hgroup hmem).1 hnear)

/-- Nodes on their own are the classes of equality. -/
theorem singletons (nodes : List String) (hr : ∀ a b, r a b ↔ a = b) :
    Classes nodes r (nodes.map fun id => [id]) where
  perm := by rw [← List.flatMap_def, List.flatMap_singleton']
  ne_nil := by simp
  mem_iff := by
    intro group hgroup a ha b
    obtain ⟨id, hid, rfl⟩ := List.mem_map.1 hgroup
    obtain rfl := List.mem_singleton.1 ha
    rw [List.mem_singleton, hr, eq_comm]
    constructor
    · rintro rfl
      exact ⟨hid, rfl⟩
    · exact And.right

theorem merge_eq (groups : List (List String)) (a b : String) :
    Network.merge groups a b =
      (groups.filter fun group => group.contains a || group.contains b).flatten ::
        groups.filter fun group => !(group.contains a || group.contains b) := by
  rw [Network.merge, List.partition_eq_filter_filter]
  rfl

/-- **Merging the groups of two nodes** relates everything that was related to one of them. -/
theorem merge (h : Classes nodes r groups) {a b : String} (ha : a ∈ nodes) (hb : b ∈ nodes) :
    Classes nodes (fun c d => r c d ∨ Near r a b c ∧ Near r a b d)
      (Network.merge groups a b) := by
  have hends : ∀ group : List String,
      (group.contains a || group.contains b) = true ↔ a ∈ group ∨ b ∈ group := by simp
  have hmerged : ∀ c, c ∈ (groups.filter fun group =>
      group.contains a || group.contains b).flatten ↔ c ∈ nodes ∧ Near r a b c := by
    intro c
    simp only [List.mem_flatten, List.mem_filter, hends]
    constructor
    · rintro ⟨group, ⟨hgroup, hend⟩, hc⟩
      exact ⟨h.mem_nodes hgroup hc, (h.near_iff ha hb hgroup hc).2 hend⟩
    · rintro ⟨hc, hnear⟩
      obtain ⟨group, hgroup, hc⟩ := h.exists_mem hc
      exact ⟨group, ⟨hgroup, (h.near_iff ha hb hgroup hc).1 hnear⟩, hc⟩
  rw [merge_eq]
  refine ⟨?perm, ?ne_nil, ?mem_iff⟩
  case perm =>
    rw [List.flatten_cons, ← List.flatten_append]
    exact (List.filter_append_perm _ groups).flatten.trans h.perm
  case ne_nil =>
    rw [List.forall_mem_cons]
    refine ⟨?_, fun group hgroup => h.ne_nil group (List.mem_filter.1 hgroup).1⟩
    obtain ⟨group, hgroup, hmem⟩ := h.exists_mem ha
    exact List.ne_nil_of_mem ((hmerged a).2 ⟨ha, (h.near_iff ha hb hgroup hmem).2 (.inl hmem)⟩)
  case mem_iff =>
    rw [List.forall_mem_cons]
    constructor
    · intro c hc d
      obtain ⟨hnode, hnear⟩ := (hmerged c).1 hc
      rw [hmerged]
      refine and_congr_right fun hd => ⟨fun hd => .inr ⟨hnear, hd⟩, ?_⟩
      rintro (hrel | ⟨-, hd⟩)
      · exact h.near_of_rel ha hb hnode hd hrel hnear
      · exact hd
    · intro group hgroup c hc d
      obtain ⟨hgroup, hapart⟩ := List.mem_filter.1 hgroup
      have hfar : ¬Near r a b c := by
        rw [h.near_iff ha hb hgroup hc, ← hends]
        simpa using hapart
      simp only [h.mem_iff group hgroup c hc, hfar, false_and, or_false]

/-! ### Counting classes -/

/-- Different groups have no node in common. -/
theorem pairwise_disjoint (h : Classes nodes r groups) (hnodes : nodes.Nodup) :
    groups.Pairwise List.Disjoint :=
  (List.nodup_flatten.1 (h.perm.nodup_iff.2 hnodes)).2

/-- Related nodes are in the same group. -/
theorem eq_of_rel (h : Classes nodes r groups) (hnodes : nodes.Nodup) {i j : Nat}
    (hi : i < groups.length) (hj : j < groups.length) {a b : String} (ha : a ∈ groups[i])
    (hb : b ∈ groups[j]) (hrel : r a b) : i = j := by
  have hmem : b ∈ groups[i] := (h.mem_iff _ (List.getElem_mem hi) a ha b).2
    ⟨h.mem_nodes (List.getElem_mem hj) hb, hrel⟩
  have hdisjoint := List.pairwise_iff_getElem.1 (h.pairwise_disjoint hnodes)
  rcases Nat.lt_trichotomy i j with hlt | heq | hlt
  · exact absurd hb (hdisjoint i j hi hj hlt hmem)
  · exact heq
  · exact absurd hmem (hdisjoint j i hj hi hlt hb)

/-- **There are as many groups as classes.** A group stands for the class of its first node. -/
theorem length_eq_card (h : Classes nodes r groups) (hnodes : nodes.Nodup)
    (s : Setoid {a // a ∈ nodes}) (hs : ∀ a b, s a b ↔ r a b) :
    groups.length = Nat.card (Quotient s) := by
  have hhead : ∀ i : Fin groups.length, ∃ a, a ∈ groups[i] := fun i =>
    List.exists_mem_of_ne_nil _ (h.ne_nil _ (List.getElem_mem i.2))
  choose head hhead using hhead
  let classOf (i : Fin groups.length) : Quotient s :=
    ⟦⟨head i, h.mem_nodes (List.getElem_mem i.2) (hhead i)⟩⟧
  have hinjective : Function.Injective classOf := by
    intro i j hij
    have hrel := (hs _ _).1 (Quotient.exact hij)
    exact Fin.ext (h.eq_of_rel hnodes i.2 j.2 (hhead i) (hhead j) hrel)
  have hsurjective : Function.Surjective classOf := by
    intro c
    induction c using Quotient.inductionOn with
    | h a =>
      obtain ⟨group, hgroup, ha⟩ := h.exists_mem a.2
      obtain ⟨i, hi, rfl⟩ := List.getElem_of_mem hgroup
      refine ⟨⟨i, hi⟩, Quotient.sound ((hs _ _).2 ?_)⟩
      exact ((h.mem_iff _ hgroup _ (hhead ⟨i, hi⟩) a).1 ha).2
  have hcard := Nat.card_eq_of_bijective classOf ⟨hinjective, hsurjective⟩
  rwa [Nat.card_fin] at hcard

end Classes

/-! ### The groups of a network -/

namespace Network

theorem foldl_merge {nodes : List String} {before edges : List Edge} {groups : List (List String)}
    (hends : ∀ e ∈ edges, e.low ∈ nodes ∧ e.high ∈ nodes)
    (h : Classes nodes (Linked before) groups) :
    Classes nodes (Linked (before ++ edges))
      (edges.foldl (fun groups e => merge groups e.low e.high) groups) := by
  induction edges generalizing before groups with
  | nil => rwa [List.append_nil]
  | cons e edges ih =>
    obtain ⟨⟨hlow, hhigh⟩, hends⟩ := List.forall_mem_cons.1 hends
    have hmerged : Classes nodes (Linked (before ++ [e])) (merge groups e.low e.high) := by
      have hrel : Linked (before ++ [e]) = _ := funext₂ fun _ _ => propext linked_concat_iff
      rw [hrel]
      exact h.merge hlow hhigh
    have hrest := ih hends hmerged
    rwa [List.append_assoc] at hrest

/-- **The groups of a network are the classes of connected nodes.** -/
theorem classes_groups {net : Network}
    (hends : ∀ e ∈ net.edges, e.low ∈ net.nodes ∧ e.high ∈ net.nodes) :
    Classes net.nodes (Linked net.edges) net.groups :=
  foldl_merge hends (Classes.singletons net.nodes fun _ _ => linked_nil)

end Network

/-! ### Groups and chains -/

namespace Ties.Mutual

variable {ties : Ties}

theorem linked_of_mem_row (h : ties.Mutual) {a b : String} (hb : b ∈ ties.row a) :
    Network.Linked (Network.ofTies ties).edges a b := by
  have hlinked := Network.equivalence_linked (Network.ofTies ties).edges
  by_cases hself : b = a
  · rw [hself]
    exact hlinked.refl a
  · obtain ⟨e, he, hend, rfl⟩ := h.mem_edges_and_iff.2 ⟨hb, hself⟩
    rcases hend with rfl | rfl
    · rw [Edge.otherEnd, if_pos rfl]
      exact Network.linked_of_mem he
    · have hlow : e.low ≠ e.high := String.ne_of_lt (h.mem_edges_ofTies.1 he).1
      rw [Edge.otherEnd, if_neg hlow]
      exact hlinked.symm (Network.linked_of_mem he)

/-- **Nodes are connected by edges if and only if a walk leads from one to the other.** -/
theorem linked_iff_leads (h : ties.Mutual) {a b : String} :
    Network.Linked (Network.ofTies ties).edges a b ↔ ∃ n, ties.Leads a n b := by
  constructor
  · intro hab
    induction hab with
    | rel a b hab =>
      obtain ⟨e, he, rfl, rfl⟩ := hab
      exact ⟨1, leads_one.2 (mem_row_iff.2 ⟨_, (h.mem_edges_ofTies.1 he).2⟩)⟩
    | refl a => exact ⟨0, leads_zero.2 rfl⟩
    | symm a b _ ih =>
      obtain ⟨n, hn⟩ := ih
      exact ⟨n, hn.symm fun _ _ => h.mem_row_comm.1⟩
    | trans a b c _ _ ih ih' =>
      obtain ⟨m, hm⟩ := ih
      obtain ⟨n, hn⟩ := ih'
      exact ⟨m + n, hm.trans hn⟩
  · rintro ⟨n, hn⟩
    have hlinked := Network.equivalence_linked (Network.ofTies ties).edges
    induction n generalizing b with
    | zero =>
      rw [leads_zero.1 hn]
      exact hlinked.refl a
    | succ n ih =>
      obtain ⟨c, hc, hb⟩ := leads_succ.1 hn
      exact hlinked.trans (ih hc) (h.linked_of_mem_row hb)

/-- Chains there and back have the same length. -/
theorem length_chain_comm (h : ties.Mutual) (a b : String) :
    (ties.chain a b).length = (ties.chain b a).length := by
  have hback : ∀ {a b n}, ties.Leads a n b → ties.Leads b n a := fun hn =>
    hn.symm fun _ _ => h.mem_row_comm.1
  rcases ties.chain_cases a b with ⟨trail, hchain, -, -, hleads, hshortest⟩ | ⟨hchain, hnone⟩
  · have hdistance : ties.AtDistance b trail.steps a :=
      ⟨hback hleads, fun m hm hm' => hshortest m hm (hback hm')⟩
    rw [hchain, trail.length_toList, length_chain hdistance]
  · rcases ties.chain_cases b a with ⟨trail, -, -, -, hleads, -⟩ | ⟨hchain', -⟩
    · exact absurd (hback hleads) (hnone trail.steps)
    · rw [hchain, hchain']

end Ties.Mutual

namespace Network

/-- **Degrees, groups and chains agree** on ties that both their ends have, an id tied to itself
or not. An employee's degree counts the others in the employee's row, the degrees add up to twice
the number of edges, and there are as many groups as classes of employees with a chain between
them. -/
theorem groups_by_chains (ties : Ties) (h : ties.isSymmetric = true) :
    (∀ id, (ofTies ties).degree id = (ties.neighbors id).countP (· ≠ id)) ∧
      (ties.keys.map fun id => (ofTies ties).degree id).sum = 2 * (ofTies ties).edges.length ∧
      (∃ hchain : Equivalence fun a b : {id // id ∈ ties.keys} => ties.chain a b ≠ [],
        (ofTies ties).groups.length = Nat.card (Quotient ⟨_, hchain⟩)) ∧
      ∀ a b, (ties.chain a b).length = (ties.chain b a).length := by
  have hmutual := Ties.isSymmetric_iff.1 h
  have hkeys : ties.keys.Nodup := Std.ExtTreeMap.nodup_keys
  have hnodes : ∀ e ∈ (ofTies ties).edges, e.low ∈ ties.keys ∧ e.high ∈ ties.keys := by
    intro e he
    obtain ⟨-, -, hends⟩ := mem_edges_ofTies.1 he
    exact hends.imp Std.ExtTreeMap.mem_keys.2 Std.ExtTreeMap.mem_keys.2
  have hlinked := equivalence_linked (ofTies ties).edges
  have hrel : ∀ a b, ties.chain a b ≠ [] ↔ Linked (ofTies ties).edges a b := fun _ _ =>
    Ties.chain_ne_nil_iff.trans hmutual.linked_iff_leads.symm
  refine ⟨hmutual.degree_ofTies, ?degrees, ⟨?equivalence, ?count⟩, hmutual.length_chain_comm⟩
  case degrees =>
    exact sum_degree hkeys fun e he => ⟨String.ne_of_lt (mem_edges_ofTies.1 he).1, hnodes e he⟩
  case equivalence =>
    refine ⟨fun a => (hrel a a).2 (hlinked.refl _), fun hab => ?_, fun hab hbc => ?_⟩
    · exact (hrel _ _).2 (hlinked.symm ((hrel _ _).1 hab))
    · exact (hrel _ _).2 (hlinked.trans ((hrel _ _).1 hab) ((hrel _ _).1 hbc))
  case count => exact (classes_groups hnodes).length_eq_card hkeys _ fun a b => hrel a b

/-- Two employees tied to each other, and one tied to no one but themselves. -/
def selfTied : Ties :=
  ((Ties.ofIds ["ana", "ben", "cyd"]).join "ana" "ben").bump "cyd" "cyd"

theorem groups_by_chains_selfTied :
    selfTied.isSymmetric = true ∧
      (∀ id, (ofTies selfTied).degree id = (selfTied.neighbors id).countP (· ≠ id)) ∧
      (selfTied.keys.map fun id => (ofTies selfTied).degree id).sum =
        2 * (ofTies selfTied).edges.length ∧
      (∃ hchain : Equivalence fun a b : {id // id ∈ selfTied.keys} => selfTied.chain a b ≠ [],
        (ofTies selfTied).groups.length = Nat.card (Quotient ⟨_, hchain⟩)) ∧
      ∀ a b, (selfTied.chain a b).length = (selfTied.chain b a).length := by
  have h : selfTied.isSymmetric = true := by decide +kernel
  exact ⟨h, groups_by_chains selfTied h⟩

end Network

end Teamwork
