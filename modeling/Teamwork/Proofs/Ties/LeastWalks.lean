import Mathlib.Data.List.Chain
import Mathlib.Data.List.Lex
import Mathlib.Data.List.Nodup
import Teamwork.Proofs.Ties.Walks

/-!
# A chain is the least of the shortest walks

Of several shortest walks between two ids the search finds the one that comes first in the order of
dictionaries, the ids being compared one by one. It does so although it stops at the first trail
that reaches the goal and never compares two trails. The reason is an invariant of its levels: the
trails of a level stand in that order, and each of them is the least walk of its length to the id it
ends at. A trail of the next level adds one id to a trail of this one, so it is decided by the
trails of this level first and by the added ids second, and that is the order in which the search
makes them.

## Main definitions

* `Ties.IsWalk` — walks as lists of ids.
* `Ties.IsLeastWalk` — the shortest walk and, of several, the least.
* `Ties.IsOrdered` — the invariant of the levels.

## Main results

* `Ties.isWalk_iff` — the two ways to keep a walk.
* `Ties.AtDistance.nodup` — a shortest walk passes no id twice.
* `Ties.IsLevel.isOrdered_next` — a level of the search is ordered if the one before is.
* `Ties.isLeastWalk_chain` — what a chain is.
-/

namespace Teamwork

/-- The order of dictionaries: the lists differ, and where they first do so the first list has the
lesser id or ends. -/
def Precedes (ids others : List String) : Prop :=
  List.Lex (· < ·) ids others

theorem Precedes.trans {ids others more : List String} (h : Precedes ids others)
    (h' : Precedes others more) : Precedes ids more :=
  List.lex_trans (fun h h' => String.lt_trans h h') h h'

/-- The order of two lists of one length does not depend on what is put behind them. -/
theorem Precedes.append {ids others : List String} (h : Precedes ids others)
    (hlength : ids.length = others.length) (more more' : List String) :
    Precedes (ids ++ more) (others ++ more') := by
  induction h with
  | nil => simp at hlength
  | rel hlt => exact .rel hlt
  | cons _ ih => exact .cons (ih (Nat.succ.inj hlength))

theorem precedes_append_of_lt (ids : List String) {a b : String} (h : a < b) :
    Precedes (ids ++ [a]) (ids ++ [b]) :=
  List.Lex.append_left _ (.rel h) ids

namespace Trail

@[simp]
theorem toList_start (id : String) : (start id).toList = [id] :=
  rfl

@[simp]
theorem toList_goTo (trail : Trail) (id : String) :
    (trail.goTo id).toList = trail.toList ++ [id] := by
  simp [goTo, toList]

theorem getLast?_toList (trail : Trail) : trail.toList.getLast? = some trail.last := by
  simp [toList]

/-- A trail is determined by its ids. -/
theorem eq_of_toList_eq {trail other : Trail} (h : trail.toList = other.toList) :
    trail = other := by
  obtain ⟨last, before⟩ := trail
  obtain ⟨last', before'⟩ := other
  obtain ⟨rfl, rfl⟩ : before = before' ∧ last = last' := by simpa [toList] using h
  rfl

end Trail

namespace Ties

variable {ties : Ties} {source goal : String}

/-! ### Walks as lists of ids -/

/-- The ids are those of a walk along the ties, from `source` to `goal`. -/
structure IsWalk (ties : Ties) (source goal : String) (ids : List String) : Prop where
  /-- The first id is where the walk starts. -/
  head : ids.head? = some source
  /-- The last id is where it leads. -/
  last : ids.getLast? = some goal
  /-- Every other id is in the row of the one before it. -/
  step : ids.IsChain fun a b => b ∈ ties.row a

theorem Walk.isWalk {trail : Trail} (h : ties.Walk source trail) :
    ties.IsWalk source trail.last trail.toList := by
  induction h with
  | start => exact ⟨rfl, rfl, .singleton _⟩
  | @goTo trail id _ hid ih =>
    refine ⟨?_, trail.goTo id |>.getLast?_toList, ?_⟩
    · rw [Trail.toList_goTo, List.head?_append, ih.head]
      rfl
    · rw [Trail.toList_goTo, List.isChain_append]
      refine ⟨ih.step, .singleton _, ?_⟩
      intro a ha b hb
      rw [trail.getLast?_toList] at ha
      obtain rfl := Option.some.inj ha
      obtain rfl := Option.some.inj hb
      exact hid

/-- **Walks can be kept as trails or as lists of ids.** -/
theorem isWalk_iff {ids : List String} : ties.IsWalk source goal ids ↔
    ∃ trail, ties.Walk source trail ∧ trail.last = goal ∧ trail.toList = ids := by
  constructor
  · rintro ⟨hhead, hlast, hstep⟩
    obtain ⟨before, rfl⟩ : ∃ before, ids = before ++ [goal] := List.getLast?_eq_some_iff.1 hlast
    clear hlast
    induction hn : before.length generalizing before goal with
    | zero =>
      obtain rfl := List.length_eq_zero_iff.1 hn
      obtain rfl := Option.some.inj hhead
      exact ⟨Trail.start goal, .start, rfl, rfl⟩
    | succ n ih =>
      -- the walk without its last step leads to the last id but one
      obtain ⟨front, a, rfl⟩ : ∃ front a, before = front ++ [a] := by
        have hne : before ≠ [] := List.ne_nil_of_length_eq_add_one hn
        exact ⟨_, _, (List.dropLast_append_getLast hne).symm⟩
      obtain ⟨hfront, -, hlink⟩ := List.isChain_append.1 hstep
      have hhead' : (front ++ [a]).head? = some source := by
        rwa [List.head?_append_of_ne_nil _ (by simp)] at hhead
      obtain ⟨trail, hwalk, rfl, hids⟩ := ih front hhead' hfront (by simpa using hn)
      have hgoal : goal ∈ ties.row trail.last := hlink trail.last (by simp) goal rfl
      exact ⟨trail.goTo goal, hwalk.goTo hgoal, rfl, by rw [Trail.toList_goTo, hids]⟩
  · rintro ⟨trail, hwalk, rfl, rfl⟩
    exact hwalk.isWalk

/-- The ids are those of a walk that has the fewest steps there can be and, of several such walks,
comes first. -/
structure IsLeastWalk (ties : Ties) (source goal : String) (ids : List String) : Prop where
  /-- They are those of a walk. -/
  walk : ties.IsWalk source goal ids
  /-- It passes no id twice. -/
  nodup : ids.Nodup
  /-- No walk has fewer steps. -/
  shortest : ∀ others, ties.IsWalk source goal others → ids.length ≤ others.length
  /-- All other walks with as many steps come later. -/
  least : ∀ others, ties.IsWalk source goal others → others.length = ids.length →
    others ≠ ids → Precedes ids others

/-! ### Shortest walks -/

/-- A walk can be broken off at any of its ids. -/
theorem Walk.leads_of_mem {trail : Trail} (h : ties.Walk source trail) {id : String}
    (hid : id ∈ trail.toList) : ∃ m ≤ trail.steps, ties.Leads source m id := by
  induction h with
  | start =>
    rw [Trail.toList_start, List.mem_singleton] at hid
    exact ⟨0, Nat.le_refl 0, leads_zero.2 hid⟩
  | @goTo trail last hwalk hlast ih =>
    rw [Trail.toList_goTo, List.mem_append, List.mem_singleton] at hid
    rcases hid with hid | rfl
    · obtain ⟨m, hm, hleads⟩ := ih hid
      exact ⟨m, Nat.le_succ_of_le hm, hleads⟩
    · exact ⟨trail.steps + 1, Nat.le_refl _, trail.goTo id, hwalk.goTo hlast, rfl, rfl⟩

/-- A shortest walk is a shortest walk up to its last id but one. -/
theorem AtDistance.pred {trail : Trail} {id : String} (hwalk : ties.Walk source trail)
    (hid : id ∈ ties.row trail.last) (h : ties.AtDistance source (trail.steps + 1) id) :
    ties.AtDistance source trail.steps trail.last := by
  refine ⟨⟨trail, hwalk, rfl, rfl⟩, ?_⟩
  intro m hm hleads
  exact h.2 (m + 1) (Nat.succ_lt_succ hm) (leads_succ.2 ⟨trail.last, hleads, hid⟩)

/-- **A shortest walk passes no id twice.** -/
theorem AtDistance.nodup {trail : Trail} (h : ties.AtDistance source trail.steps trail.last)
    (hwalk : ties.Walk source trail) : trail.toList.Nodup := by
  induction hwalk with
  | start => exact List.nodup_singleton _
  | @goTo trail id hwalk hid ih =>
    rw [Trail.toList_goTo, List.nodup_append]
    refine ⟨ih (h.pred hwalk hid), List.nodup_singleton _, ?_⟩
    rintro a ha b hb rfl
    obtain rfl := List.mem_singleton.1 hb
    -- the walk up to the first of the two places would be shorter
    obtain ⟨m, hm, hleads⟩ := hwalk.leads_of_mem ha
    exact h.2 m (Nat.lt_succ_of_le hm) hleads

/-! ### The order of a level -/

/-- The trails of a level of walks with `n` steps stand in their order, and each is the least of
those that end where it ends. -/
structure IsOrdered (ties : Ties) (source : String) (n : Nat) (level : List Trail) : Prop where
  /-- Every trail comes before those behind it. -/
  ascending : level.Pairwise fun trail other => Precedes trail.toList other.toList
  /-- All other walks with `n` steps to the end of a trail come later. -/
  least : ∀ trail ∈ level, ∀ other, ties.Walk source other → other.steps = n →
    other.last = trail.last → other = trail ∨ Precedes trail.toList other.toList

theorem isOrdered_start (ties : Ties) (source : String) :
    ties.IsOrdered source 0 [Trail.start source] where
  ascending := List.pairwise_singleton _ _
  least trail htrail other hother hsteps _ := by
    obtain rfl := List.mem_singleton.1 htrail
    cases hother with
    | start => exact .inl rfl
    | goTo => cases hsteps

/-- The neighbors of an id are listed in ascending order. -/
theorem pairwise_neighbors (ties : Ties) (id : String) :
    (ties.neighbors id).Pairwise (· < ·) := by
  refine Std.ExtTreeMap.ordered_keys.imp ?_
  intro a b hlt
  exact compareOfLessAndEq_eq_lt.1 hlt

/-- The extensions of a trail are in the order of the ids they add. -/
theorem pairwise_extend (trail : Trail) {ids : List String} (h : ids.Pairwise (· < ·))
    (unseen : Ids) :
    (trail.extend ids unseen).1.Pairwise fun t t' => Precedes t.toList t'.toList := by
  induction ids generalizing unseen with
  | nil => exact .nil
  | cons id ids ih =>
    obtain ⟨hid, hids⟩ := List.pairwise_cons.1 h
    rw [Trail.extend]
    split
    · refine List.pairwise_cons.2 ⟨?_, ih hids _⟩
      intro t ht
      obtain ⟨id', hmem, -, rfl⟩ := mem_extend_fst ht
      rw [Trail.toList_goTo, Trail.toList_goTo]
      exact precedes_append_of_lt _ (hid id' hmem)
    · exact ih hids _

/-- **The search extends the first trail it can.** A trail of the next level extends one of this
level by an unseen id, and no trail further ahead could have been extended by that id. -/
theorem exists_first_of_mem_nextLevel {level : List Trail} {unseen : Ids} {t : Trail}
    (hascending : level.Pairwise fun trail other => Precedes trail.toList other.toList)
    (ht : t ∈ (ties.nextLevel level unseen).1) :
    ∃ trail ∈ level, ∃ id ∈ unseen, id ∈ ties.row trail.last ∧ t = trail.goTo id ∧
      ∀ other ∈ level, id ∈ ties.row other.last →
        other = trail ∨ Precedes trail.toList other.toList := by
  induction level generalizing unseen with
  | nil => exact absurd ht List.not_mem_nil
  | cons first level ih =>
    obtain ⟨hfirst, hlevel⟩ := List.pairwise_cons.1 hascending
    rw [nextLevel] at ht
    rcases List.mem_append.1 ht with ht | ht
    · obtain ⟨id, hid, hunseen, rfl⟩ := mem_extend_fst ht
      refine ⟨first, List.mem_cons_self, id, hunseen, mem_neighbors.1 hid, rfl, ?_⟩
      intro other hother _
      exact (List.mem_cons.1 hother).imp_right (hfirst other)
    · obtain ⟨trail, htrail, id, hleft, hid, rfl, hothers⟩ := ih hlevel ht
      -- the id was left over by the first trail, so it is none of its neighbors
      obtain ⟨hunseen, hnot⟩ := mem_extend_snd.1 hleft
      refine ⟨trail, List.mem_cons_of_mem _ htrail, id, hunseen, hid, rfl, ?_⟩
      intro other hother hrow
      rcases List.mem_cons.1 hother with rfl | hother
      · exact absurd (mem_neighbors.2 hrow) hnot
      · exact hothers other hother hrow

/-- The next level is in order if this one is, as all trails of this one are of one length. -/
theorem pairwise_nextLevel {level : List Trail} {n : Nat}
    (hsteps : ∀ trail ∈ level, trail.steps = n)
    (hascending : level.Pairwise fun trail other => Precedes trail.toList other.toList)
    (unseen : Ids) :
    (ties.nextLevel level unseen).1.Pairwise fun t t' => Precedes t.toList t'.toList := by
  induction level generalizing unseen with
  | nil => exact .nil
  | cons first level ih =>
    obtain ⟨hfirst, hlevel⟩ := List.pairwise_cons.1 hascending
    obtain ⟨hn, hsteps⟩ := List.forall_mem_cons.1 hsteps
    rw [nextLevel]
    refine List.pairwise_append.2
      ⟨pairwise_extend first (ties.pairwise_neighbors first.last) unseen, ih hsteps hlevel _, ?_⟩
    intro t ht t' ht'
    obtain ⟨id, -, -, rfl⟩ := mem_extend_fst ht
    obtain ⟨trail, htrail, id', -, rfl⟩ := mem_nextLevel_fst ht'
    rw [Trail.toList_goTo, Trail.toList_goTo]
    refine (hfirst trail htrail).append ?_ _ _
    rw [first.length_toList, trail.length_toList, hn, hsteps trail htrail]

/-- **A level of the search is ordered if the one before is.** -/
theorem IsLevel.isOrdered_next {n : Nat} {level : List Trail} {unseen : Ids}
    (h : ties.IsLevel source n level unseen) (hordered : ties.IsOrdered source n level) :
    ties.IsOrdered source (n + 1) (ties.nextLevel level unseen).1 where
  ascending := pairwise_nextLevel (fun trail htrail => (h.walk trail htrail).2)
    hordered.ascending unseen
  least := by
    intro t ht other hother hsteps hlast
    obtain ⟨trail, htrail, id, hunseen, -, rfl, hfirst⟩ :=
      exists_first_of_mem_nextLevel hordered.ascending ht
    cases hother with
    | start => cases hsteps
    | @goTo before last hbefore hlast' =>
      obtain rfl : last = id := hlast
      have hn : before.steps = n := Nat.succ.inj hsteps
      -- nothing less than `n` steps leads to the last id but one, or the last one would be seen
      have hdistance : ties.AtDistance source n before.last := by
        refine ⟨⟨before, hbefore, rfl, hn⟩, ?_⟩
        intro m hm hleads
        exact ((h.mem_unseen_iff last).1 hunseen).2 (m + 1) hm
          (leads_succ.2 ⟨before.last, hleads, hlast'⟩)
      obtain ⟨peer, hpeer, hpeerLast⟩ := h.exists_trail before.last hdistance
      have hpeerBefore := hordered.least peer hpeer before hbefore hn hpeerLast.symm
      have htrailPeer := hfirst peer hpeer (hpeerLast ▸ hlast')
      have hlength : trail.toList.length = before.toList.length := by
        rw [trail.length_toList, before.length_toList, hn, (h.walk trail htrail).2]
      rw [Trail.toList_goTo, Trail.toList_goTo]
      rcases htrailPeer with rfl | htrailPeer <;> rcases hpeerBefore with rfl | hpeerBefore
      · exact .inl rfl
      · exact .inr (hpeerBefore.append hlength _ _)
      · exact .inr (htrailPeer.append hlength _ _)
      · exact .inr ((htrailPeer.trans hpeerBefore).append hlength _ _)

/-! ### The search -/

/-- The trail that a search finds is the least of the walks with as many steps. -/
theorem IsLevel.least_of_search {n : Nat} {level : List Trail} {unseen : Ids}
    (h : ties.IsLevel source n level unseen) (hordered : ties.IsOrdered source n level)
    {trail : Trail} (hsearch : ties.search goal level unseen = some trail) {other : Trail}
    (hother : ties.Walk source other) (hlast : other.last = trail.last)
    (hsteps : other.steps = trail.steps) :
    other = trail ∨ Precedes trail.toList other.toList := by
  fun_induction search ties goal level unseen generalizing n with
  | case1 level unseen next found =>
    rename_i hfind
    obtain rfl := Option.some.inj hsearch
    have hmem := List.mem_of_find?_eq_some hfind
    rw [(h.next.walk found hmem).2] at hsteps
    exact (h.isOrdered_next hordered).least found hmem other hother hsteps hlast
  | case2 => cases hsearch
  | case3 level unseen next hfind =>
    rename_i ih
    exact ih h.next (h.isOrdered_next hordered) hsearch

/-- A chain is a shortest walk and the least of those, or there is no walk and the chain is
empty. -/
theorem chain_least_cases (ties : Ties) (source goal : String) :
    (∃ trail, ties.chain source goal = trail.toList ∧ ties.Walk source trail ∧
        trail.last = goal ∧ ties.AtDistance source trail.steps goal ∧
        ∀ other, ties.Walk source other → other.last = goal → other.steps = trail.steps →
          other = trail ∨ Precedes trail.toList other.toList) ∨
      ties.chain source goal = [] ∧ ∀ m, ¬ties.Leads source m goal := by
  rcases ties.chain_cases source goal with ⟨trail, hchain, hwalk, hlast, hdistance⟩ | hnone
  · refine .inl ⟨trail, hchain, hwalk, hlast, hdistance, ?_⟩
    intro other hother hother' hsteps
    rw [chain] at hchain
    by_cases hsame : source = goal
    · rw [if_pos hsame] at hchain
      obtain rfl : Trail.start source = trail := Trail.eq_of_toList_eq hchain
      exact (ties.isOrdered_start source).least _ List.mem_cons_self other hother hsteps
        (hother'.trans hsame.symm)
    · rw [if_neg hsame] at hchain
      cases hsearch : ties.search goal [Trail.start source] (ties.mentioned.erase source) with
      | none =>
        rw [hsearch] at hchain
        have hlength := trail.length_toList
        rw [← hchain] at hlength
        cases hlength
      | some found =>
        rw [hsearch] at hchain
        obtain rfl : found = trail := Trail.eq_of_toList_eq hchain
        exact (ties.isLevel_start source).least_of_search (ties.isOrdered_start source) hsearch
          hother (hother'.trans hlast.symm) hsteps
  · exact .inr hnone

/-- **A chain is the least of the shortest walks.** Between an id and itself that is the id alone.
Otherwise the chain is empty exactly if no walk leads from the one id to the other, and if it is not
empty it is the walk that has the fewest steps and comes first among those. Nothing is assumed about
the ties. -/
theorem isLeastWalk_chain (ties : Ties) (source goal : String) :
    ties.chain source source = [source] ∧
      (ties.chain source goal = [] ↔ ¬∃ ids, ties.IsWalk source goal ids) ∧
      (ties.chain source goal ≠ [] →
        ties.IsLeastWalk source goal (ties.chain source goal)) := by
  refine ⟨if_pos rfl, ?_⟩
  rcases ties.chain_least_cases source goal with
    ⟨trail, hchain, hwalk, rfl, hdistance, hleast⟩ | ⟨hchain, hnone⟩
  · have hne : ties.chain source trail.last ≠ [] := by
      intro hnil
      have hlength := trail.length_toList
      rw [← hchain, hnil] at hlength
      cases hlength
    rw [hchain] at hne ⊢
    refine ⟨iff_of_false hne (not_not_intro ⟨_, hwalk.isWalk⟩), fun _ => ?_⟩
    exact {
      walk := hwalk.isWalk
      nodup := hdistance.nodup hwalk
      shortest := by
        intro others hothers
        obtain ⟨other, hother, hlast, rfl⟩ := isWalk_iff.1 hothers
        rw [trail.length_toList, other.length_toList]
        refine Nat.succ_le_succ (Nat.le_of_not_lt fun hlt => ?_)
        exact hdistance.2 other.steps hlt ⟨other, hother, hlast, rfl⟩
      least := by
        intro others hothers hlength hdiffer
        obtain ⟨other, hother, hlast, rfl⟩ := isWalk_iff.1 hothers
        rw [trail.length_toList, other.length_toList] at hlength
        refine (hleast other hother hlast (Nat.succ.inj hlength)).resolve_left ?_
        rintro rfl
        exact hdiffer rfl }
  · refine ⟨iff_of_true hchain ?_, fun hne => absurd hchain hne⟩
    rintro ⟨ids, hids⟩
    obtain ⟨trail, hwalk, hlast, -⟩ := isWalk_iff.1 hids
    exact hnone trail.steps ⟨trail, hwalk, hlast, rfl⟩

/-- One-sided ties with two ways from `a` to `d`, a tie of `a` to itself and an id without a row. -/
def twoWays : Ties :=
  (((((Ties.ofIds []).bump "a" "c").bump "a" "b").bump "a" "a").bump "b" "d").bump "c" "d"

theorem isLeastWalk_chain_twoWays :
    twoWays.chain "a" "d" = ["a", "b", "d"] ∧ twoWays.chain "a" "d" ≠ [] ∧
      twoWays.IsLeastWalk "a" "d" ["a", "b", "d"] ∧ ¬∃ ids, twoWays.IsWalk "d" "a" ids := by
  have hchain : twoWays.chain "a" "d" = ["a", "b", "d"] := by decide +kernel
  have hback : twoWays.chain "d" "a" = [] := by decide +kernel
  have hne : twoWays.chain "a" "d" ≠ [] := by simp [hchain]
  have hleast := (twoWays.isLeastWalk_chain "a" "d").2.2 hne
  rw [hchain] at hleast
  exact ⟨hchain, hne, hleast, (twoWays.isLeastWalk_chain "d" "a").2.1.1 hback⟩

end Ties

end Teamwork
