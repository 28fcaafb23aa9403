import Teamwork.Proofs.Keyed
import Teamwork.Ties.Chain

/-!
# A chain is a shortest walk

A walk along the ties is a trail whose every step goes to an entry of the row it comes from. What a
search finds is said in terms of walks alone: after `n` levels there is a trail to every id at
distance `n`, and the ids still unseen are those that no walk of at most `n` steps leads to.

Nothing is assumed about the ties. They may be one-sided, tie an id to itself or name ids without a
row.

## Main definitions

* `Ties.Walk` — trails along the ties.
* `Ties.Leads`, `Ties.AtDistance` — how many steps there are from one id to another.
* `Ties.IsLevel` — the invariant of the search.

## Main results

* `Ties.IsLevel.next` — a level of the search follows from the one before.
* `Ties.chain_cases` — a chain is a shortest walk, or there is no walk.
* `Ties.chain_ne_nil_iff`, `Ties.length_chain` — when there is a chain, and how long it is.
-/

namespace Teamwork

/-- How many steps a trail has. -/
def Trail.steps (trail : Trail) : Nat :=
  trail.before.length

theorem Trail.length_toList (trail : Trail) : trail.toList.length = trail.steps + 1 := by
  simp [toList, steps]

namespace Ties

variable {ties : Ties} {source goal : String}

theorem mem_neighbors {a b : String} : b ∈ ties.neighbors a ↔ b ∈ ties.row a :=
  Std.ExtTreeMap.mem_keys

theorem mem_mentioned {id : String} : id ∈ ties.mentioned ↔ ∃ a, id ∈ ties.row a := by
  have hfold : ∀ (ids : List String) (init : Ids),
      id ∈ ids.foldl (fun ids id => ids.insert id) init ↔ id ∈ ids ∨ id ∈ init := by
    intro ids
    induction ids with
    | nil => simp
    | cons a ids ih =>
      intro init
      rw [List.foldl_cons, ih, Std.ExtTreeSet.mem_insert, Std.LawfulEqCmp.compare_eq_iff_eq,
        List.mem_cons]
      grind
  rw [mentioned, hfold, List.mem_flatMap]
  constructor
  · rintro (⟨row, hrow, hid⟩ | hid)
    · obtain ⟨a, ha⟩ := Keyed.mem_values_iff.1 hrow
      refine ⟨a, ?_⟩
      rw [Ties.row, ha]
      exact Std.ExtTreeMap.mem_keys.1 hid
    · exact absurd hid Std.ExtTreeSet.not_mem_empty
  · rintro ⟨a, ha⟩
    rw [Ties.row] at ha
    cases hrow : ties[a]? with
    | none =>
      rw [hrow] at ha
      exact absurd ha Std.ExtTreeMap.not_mem_empty
    | some row =>
      rw [hrow] at ha
      exact .inl ⟨row, Keyed.mem_values_iff.2 ⟨a, hrow⟩, Std.ExtTreeMap.mem_keys.2 ha⟩

/-! ### Walks -/

/-- The trail goes along the ties, from `source` on. -/
inductive Walk (ties : Ties) (source : String) : Trail → Prop
  /-- It stays at its start. -/
  | start : Walk ties source (Trail.start source)
  /-- It takes one more step. -/
  | goTo {trail : Trail} {id : String} :
    Walk ties source trail → id ∈ ties.row trail.last → Walk ties source (trail.goTo id)

/-- A walk of `n` steps leads from `source` to `id`. -/
def Leads (ties : Ties) (source : String) (n : Nat) (id : String) : Prop :=
  ∃ trail, ties.Walk source trail ∧ trail.last = id ∧ trail.steps = n

theorem leads_zero {id : String} : ties.Leads source 0 id ↔ id = source := by
  constructor
  · rintro ⟨trail, hwalk, rfl, hsteps⟩
    cases hwalk with
    | start => rfl
    | goTo => simp [Trail.steps, Trail.goTo] at hsteps
  · rintro rfl
    exact ⟨Trail.start _, .start, rfl, rfl⟩

theorem leads_succ {n : Nat} {id : String} :
    ties.Leads source (n + 1) id ↔ ∃ a, ties.Leads source n a ∧ id ∈ ties.row a := by
  constructor
  · rintro ⟨trail, hwalk, rfl, hsteps⟩
    cases hwalk with
    | start => simp [Trail.steps, Trail.start] at hsteps
    | @goTo trail id hwalk hid =>
      exact ⟨trail.last, ⟨trail, hwalk, rfl, by simpa [Trail.steps, Trail.goTo] using hsteps⟩, hid⟩
  · rintro ⟨a, ⟨trail, hwalk, rfl, rfl⟩, hid⟩
    exact ⟨trail.goTo id, hwalk.goTo hid, rfl, rfl⟩

theorem Leads.trans {a b c : String} {m n : Nat} (h : ties.Leads a m b) (h' : ties.Leads b n c) :
    ties.Leads a (m + n) c := by
  induction n generalizing c with
  | zero => rwa [leads_zero.1 h']
  | succ n ih =>
    obtain ⟨d, hd, hc⟩ := leads_succ.1 h'
    exact leads_succ.2 ⟨d, ih hd, hc⟩

theorem leads_one {a b : String} : ties.Leads a 1 b ↔ b ∈ ties.row a := by
  rw [leads_succ]
  simp only [leads_zero, exists_eq_left]

/-- A walk can be gone backwards if every step can. -/
theorem Leads.symm (h : ∀ a b, b ∈ ties.row a → a ∈ ties.row b) {a b : String} {n : Nat}
    (hab : ties.Leads a n b) : ties.Leads b n a := by
  induction n generalizing b with
  | zero => exact leads_zero.2 (leads_zero.1 hab).symm
  | succ n ih =>
    obtain ⟨c, hc, hb⟩ := leads_succ.1 hab
    have hback : ties.Leads b 1 c := leads_one.2 (h c b hb)
    rw [Nat.add_comm]
    exact hback.trans (ih hc)

/-! ### Distances -/

/-- A walk of `n` steps leads from `source` to `id`, and none of fewer steps. -/
def AtDistance (ties : Ties) (source : String) (n : Nat) (id : String) : Prop :=
  ties.Leads source n id ∧ ∀ m < n, ¬ties.Leads source m id

theorem Leads.exists_atDistance {n : Nat} {id : String} (h : ties.Leads source n id) :
    ∃ m ≤ n, ties.AtDistance source m id := by
  induction n using Nat.strongRecOn with
  | ind n ih =>
    by_cases hless : ∃ m < n, ties.Leads source m id
    · obtain ⟨m, hm, hleads⟩ := hless
      obtain ⟨k, hk, hdistance⟩ := ih m hm hleads
      exact ⟨k, by omega, hdistance⟩
    · exact ⟨n, Nat.le_refl n, h, fun m hm hleads => hless ⟨m, hm, hleads⟩⟩

/-- The last step but one of a shortest walk ends a shortest walk. -/
theorem AtDistance.exists_pred {n : Nat} {id : String} (h : ties.AtDistance source (n + 1) id) :
    ∃ a, ties.AtDistance source n a ∧ id ∈ ties.row a := by
  obtain ⟨a, ha, hid⟩ := leads_succ.1 h.1
  refine ⟨a, ⟨ha, ?_⟩, hid⟩
  intro m hm hleads
  exact h.2 (m + 1) (by omega) (leads_succ.2 ⟨a, hleads, hid⟩)

/-- Where nothing is at a distance, nothing is further away. -/
theorem not_atDistance_of_le {n : Nat} (h : ∀ id, ¬ties.AtDistance source n id) {m : Nat}
    (hm : n ≤ m) (id : String) : ¬ties.AtDistance source m id := by
  induction hm generalizing id with
  | refl => exact h id
  | step _ ih =>
    intro hid
    obtain ⟨a, ha, -⟩ := hid.exists_pred
    exact ih a ha

/-! ### One level of the search -/

theorem mem_extend_fst {trail t : Trail} {ids : List String} {unseen : Ids}
    (h : t ∈ (trail.extend ids unseen).1) : ∃ id ∈ ids, id ∈ unseen ∧ t = trail.goTo id := by
  induction ids generalizing unseen with
  | nil => simp [Trail.extend] at h
  | cons id ids ih =>
    rw [Trail.extend] at h
    split at h
    · next hid =>
      rcases List.mem_cons.1 h with rfl | h
      · exact ⟨id, List.mem_cons_self, hid, rfl⟩
      · obtain ⟨id', hmem, hunseen, ht⟩ := ih h
        exact ⟨id', List.mem_cons_of_mem _ hmem, (Std.ExtTreeSet.mem_erase.1 hunseen).2, ht⟩
    · obtain ⟨id', hmem, hunseen, ht⟩ := ih h
      exact ⟨id', List.mem_cons_of_mem _ hmem, hunseen, ht⟩

theorem mem_extend_snd {trail : Trail} {ids : List String} {unseen : Ids} {id : String} :
    id ∈ (trail.extend ids unseen).2 ↔ id ∈ unseen ∧ id ∉ ids := by
  induction ids generalizing unseen with
  | nil => simp [Trail.extend]
  | cons a ids ih =>
    rw [Trail.extend]
    split
    · dsimp only
      rw [ih, Std.ExtTreeSet.mem_erase, Ne, Std.LawfulEqCmp.compare_eq_iff_eq, List.mem_cons]
      grind
    · rw [ih, List.mem_cons]
      grind

theorem exists_mem_extend (trail : Trail) {ids : List String} {unseen : Ids} {id : String}
    (hid : id ∈ ids) (hunseen : id ∈ unseen) :
    ∃ t ∈ (trail.extend ids unseen).1, t.last = id := by
  induction ids generalizing unseen with
  | nil => simp at hid
  | cons a ids ih =>
    rw [Trail.extend]
    by_cases ha : a = id
    · subst ha
      rw [if_pos hunseen]
      exact ⟨_, List.mem_cons_self, rfl⟩
    · have hid : id ∈ ids := (List.mem_cons.1 hid).resolve_left (Ne.symm ha)
      split
      · have hleft : id ∈ unseen.erase a :=
          Std.ExtTreeSet.mem_erase.2 ⟨fun h => ha (Std.LawfulEqCmp.eq_of_compare h), hunseen⟩
        obtain ⟨t, ht, hlast⟩ := ih hid hleft
        exact ⟨t, List.mem_cons_of_mem _ ht, hlast⟩
      · exact ih hid hunseen

theorem mem_nextLevel_fst {level : List Trail} {unseen : Ids} {t : Trail}
    (h : t ∈ (ties.nextLevel level unseen).1) :
    ∃ trail ∈ level, ∃ id ∈ ties.row trail.last, t = trail.goTo id := by
  induction level generalizing unseen with
  | nil => simp [nextLevel] at h
  | cons trail level ih =>
    rw [nextLevel] at h
    rcases List.mem_append.1 h with h | h
    · obtain ⟨id, hid, -, ht⟩ := mem_extend_fst h
      exact ⟨trail, List.mem_cons_self, id, mem_neighbors.1 hid, ht⟩
    · obtain ⟨trail', hmem, hid⟩ := ih h
      exact ⟨trail', List.mem_cons_of_mem _ hmem, hid⟩

theorem mem_nextLevel_snd {level : List Trail} {unseen : Ids} {id : String} :
    id ∈ (ties.nextLevel level unseen).2 ↔
      id ∈ unseen ∧ ∀ trail ∈ level, id ∉ ties.row trail.last := by
  induction level generalizing unseen with
  | nil => simp [nextLevel]
  | cons trail level ih =>
    rw [nextLevel]
    dsimp only
    rw [ih, mem_extend_snd, mem_neighbors, List.forall_mem_cons, and_assoc]

theorem exists_mem_nextLevel {level : List Trail} {unseen : Ids} {id : String} {trail : Trail}
    (htrail : trail ∈ level) (hid : id ∈ ties.row trail.last) (hunseen : id ∈ unseen) :
    ∃ t ∈ (ties.nextLevel level unseen).1, t.last = id := by
  induction level generalizing unseen with
  | nil => simp at htrail
  | cons trail' level ih =>
    rw [nextLevel]
    dsimp only
    by_cases hfirst : id ∈ ties.row trail'.last
    · obtain ⟨t, ht, hlast⟩ := exists_mem_extend trail' (mem_neighbors.2 hfirst) hunseen
      exact ⟨t, List.mem_append_left _ ht, hlast⟩
    · -- the id is not used up by the first trail, so it is still there for the others
      have htrail : trail ∈ level := by
        rcases List.mem_cons.1 htrail with rfl | htrail
        · exact absurd hid hfirst
        · exact htrail
      have hleft : id ∈ (trail'.extend (ties.neighbors trail'.last) unseen).2 :=
        mem_extend_snd.2 ⟨hunseen, fun h => hfirst (mem_neighbors.1 h)⟩
      obtain ⟨t, ht, hlast⟩ := ih htrail hleft
      exact ⟨t, List.mem_append_right _ ht, hlast⟩

/-- The trails and the unseen ids that a search has on its level `n`. -/
structure IsLevel (ties : Ties) (source : String) (n : Nat) (level : List Trail) (unseen : Ids) :
    Prop where
  /-- The trails are walks of `n` steps. -/
  walk : ∀ trail ∈ level, ties.Walk source trail ∧ trail.steps = n
  /-- There is a trail to every id at distance `n`. -/
  exists_trail : ∀ id, ties.AtDistance source n id → ∃ trail ∈ level, trail.last = id
  /-- An id is unseen if it takes more than `n` steps to reach it. -/
  mem_unseen_iff : ∀ id, id ∈ unseen ↔
    id ∈ ties.mentioned ∧ ∀ m ≤ n, ¬ties.Leads source m id

theorem isLevel_start (ties : Ties) (source : String) :
    ties.IsLevel source 0 [Trail.start source] (ties.mentioned.erase source) where
  walk trail htrail := by
    rw [List.mem_singleton.1 htrail]
    exact ⟨.start, rfl⟩
  exists_trail id hid := ⟨Trail.start source, List.mem_singleton_self _, (leads_zero.1 hid.1).symm⟩
  mem_unseen_iff id := by
    simp only [Std.ExtTreeSet.mem_erase, Ne, Std.LawfulEqCmp.compare_eq_iff_eq, Nat.le_zero_eq,
      forall_eq, leads_zero]
    grind

/-- **A level of the search follows from the one before.** -/
theorem IsLevel.next {n : Nat} {level : List Trail} {unseen : Ids}
    (h : ties.IsLevel source n level unseen) :
    ties.IsLevel source (n + 1) (ties.nextLevel level unseen).1
      (ties.nextLevel level unseen).2 where
  walk t ht := by
    obtain ⟨trail, htrail, id, hid, rfl⟩ := mem_nextLevel_fst ht
    obtain ⟨hwalk, hsteps⟩ := h.walk trail htrail
    exact ⟨hwalk.goTo hid, congrArg (· + 1) hsteps⟩
  exists_trail id hid := by
    obtain ⟨a, ha, hrow⟩ := hid.exists_pred
    obtain ⟨trail, htrail, rfl⟩ := h.exists_trail a ha
    have hunseen : id ∈ unseen := (h.mem_unseen_iff id).2
      ⟨mem_mentioned.2 ⟨trail.last, hrow⟩, fun m hm => hid.2 m (by omega)⟩
    exact exists_mem_nextLevel htrail hrow hunseen
  mem_unseen_iff id := by
    rw [mem_nextLevel_snd, h.mem_unseen_iff, and_assoc]
    refine and_congr_right fun _ => ?_
    constructor
    · rintro ⟨hless, hlevel⟩ m hm hleads
      obtain hm | rfl := Nat.lt_or_eq_of_le hm
      · exact hless m (by omega) hleads
      · have hdistance : ties.AtDistance source (n + 1) id :=
          ⟨hleads, fun m hm => hless m (by omega)⟩
        obtain ⟨a, ha, hrow⟩ := hdistance.exists_pred
        obtain ⟨trail, htrail, rfl⟩ := h.exists_trail a ha
        exact hlevel trail htrail hrow
    · intro hall
      refine ⟨fun m hm => hall m (by omega), ?_⟩
      intro trail htrail hrow
      obtain ⟨hwalk, hsteps⟩ := h.walk trail htrail
      exact hall (n + 1) (Nat.le_refl _) (leads_succ.2 ⟨_, ⟨trail, hwalk, rfl, hsteps⟩, hrow⟩)

/-! ### The search -/

/-- A search finds a shortest walk, or there is no walk. -/
theorem IsLevel.search_cases {n : Nat} {level : List Trail} {unseen : Ids}
    (h : ties.IsLevel source n level unseen) (hgoal : ∀ m ≤ n, ¬ties.Leads source m goal) :
    (∃ trail, ties.search goal level unseen = some trail ∧ ties.Walk source trail ∧
        trail.last = goal ∧ ties.AtDistance source trail.steps goal) ∨
      ties.search goal level unseen = none ∧ ∀ m, ¬ties.Leads source m goal := by
  fun_induction search ties goal level unseen generalizing n with
  | case1 level unseen next trail =>
    rename_i hfind
    refine .inl ⟨trail, rfl, ?_⟩
    obtain ⟨hwalk, hsteps⟩ := h.next.walk trail (List.mem_of_find?_eq_some hfind)
    have hlast : trail.last = goal := by simpa using List.find?_some hfind
    refine ⟨hwalk, hlast, ⟨trail, hwalk, hlast, rfl⟩, ?_⟩
    intro m hm
    exact hgoal m (by omega)
  | case2 level unseen next hfind =>
    rename_i hempty
    refine .inr ⟨rfl, ?_⟩
    have hnone : ∀ id, ¬ties.AtDistance source (n + 1) id := by
      intro id hid
      obtain ⟨trail, htrail, -⟩ := h.next.exists_trail id hid
      rw [hempty] at htrail
      exact absurd htrail List.not_mem_nil
    intro m hm
    obtain ⟨k, -, hk⟩ := hm.exists_atDistance
    have hle : n + 1 ≤ k := Nat.lt_of_not_le fun hkn => hgoal k hkn hk.1
    exact not_atDistance_of_le hnone hle goal hk
  | case3 level unseen next hfind =>
    rename_i ih
    refine ih h.next ?_
    intro m hm hleads
    obtain hm | rfl := Nat.lt_or_eq_of_le hm
    · exact hgoal m (by omega) hleads
    · obtain ⟨trail, htrail, hlast⟩ :=
        h.next.exists_trail goal ⟨hleads, fun m hm => hgoal m (by omega)⟩
      have hother := List.find?_eq_none.1 hfind trail htrail
      exact hother (decide_eq_true hlast)

/-- **A chain is a shortest walk**, or there is no walk and the chain is empty. -/
theorem chain_cases (ties : Ties) (source goal : String) :
    (∃ trail, ties.chain source goal = trail.toList ∧ ties.Walk source trail ∧
        trail.last = goal ∧ ties.AtDistance source trail.steps goal) ∨
      ties.chain source goal = [] ∧ ∀ m, ¬ties.Leads source m goal := by
  rw [chain]
  by_cases hsame : source = goal
  · subst hsame
    rw [if_pos rfl]
    exact .inl ⟨Trail.start source, rfl, .start, rfl, leads_zero.2 rfl,
      fun m hm => absurd hm (Nat.not_lt_zero m)⟩
  · rw [if_neg hsame]
    have hgoal : ∀ m ≤ 0, ¬ties.Leads source m goal := by
      intro m hm
      rw [Nat.le_zero.1 hm, leads_zero]
      exact Ne.symm hsame
    rcases (isLevel_start ties source).search_cases hgoal with ⟨trail, hsearch, htrail⟩ | ⟨h, hnone⟩
    · rw [hsearch]
      exact .inl ⟨trail, rfl, htrail⟩
    · rw [h]
      exact .inr ⟨rfl, hnone⟩

theorem chain_ne_nil_iff {ties : Ties} {a b : String} :
    ties.chain a b ≠ [] ↔ ∃ n, ties.Leads a n b := by
  rcases ties.chain_cases a b with ⟨trail, hchain, -, -, hleads, -⟩ | ⟨hchain, hnone⟩
  · have hlength := trail.length_toList
    rw [← hchain] at hlength
    exact ⟨fun _ => ⟨_, hleads⟩, fun _ hnil => by simp [hnil] at hlength⟩
  · exact ⟨fun h => absurd hchain h, fun ⟨n, hn⟩ => absurd hn (hnone n)⟩

/-- A chain has one id more than it has steps. -/
theorem length_chain {ties : Ties} {a b : String} {n : Nat} (h : ties.AtDistance a n b) :
    (ties.chain a b).length = n + 1 := by
  rcases ties.chain_cases a b with ⟨trail, hchain, -, -, hleads, hshortest⟩ | ⟨-, hnone⟩
  · rw [hchain, trail.length_toList, Nat.add_right_cancel_iff]
    have hle : n ≤ trail.steps := Nat.le_of_not_lt fun hlt => h.2 _ hlt hleads
    have hge : trail.steps ≤ n := Nat.le_of_not_lt fun hlt => hshortest _ hlt h.1
    omega
  · exact absurd h.1 (hnone n)

end Ties

end Teamwork
