import Std.Data.ExtTreeSet
import Teamwork.Ties

/-!
# Chains of collaborators

The shortest chain from one employee to another, along the ties. The search runs level by level:
the first level is the start alone, and each further level takes every trail of the level before
in order and extends it by every neighbor that no earlier trail has reached, in ascending order.
Trails grow at the front and share what they have in common, so a level holds no more than one new
node per employee it reaches.

Because the levels are complete, the first trail that reaches the goal has the fewest steps; because
trails and neighbors are taken in order, it is the least of those.

## Main definitions

* `Trail` — a walk from the start, kept from its last id backwards.
* `Ties.nextLevel` — the trails of the next level, and the ids still unseen.
* `Ties.chain` — the shortest chain between two ids, empty if there is none.

## Main results

* `Ties.length_nextLevel` — every trail of a new level uses up one unseen id, which is why the
  search ends.
-/

namespace Teamwork

/-- A set of ids. -/
abbrev Ids := Std.ExtTreeSet String

/-- A walk along the ties, from its last id backwards. -/
structure Trail where
  /-- The id the walk has reached. -/
  last : String
  /-- The ids before it, the latest first. -/
  before : List String
  deriving DecidableEq, Repr

namespace Trail

/-- The walk that stays at its start. -/
def start (id : String) : Trail := ⟨id, []⟩

/-- The walk that goes on to `id`. -/
def goTo (trail : Trail) (id : String) : Trail := ⟨id, trail.last :: trail.before⟩

/-- The ids of the walk, from its start. -/
def toList (trail : Trail) : List String := (trail.last :: trail.before).reverse

/-- The trail extended by each of the given ids that is still unseen, with the ids that remain
unseen. -/
def extend (trail : Trail) : List String → Ids → List Trail × Ids
  | [], unseen => ([], unseen)
  | id :: ids, unseen =>
    if id ∈ unseen then
      let (found, left) := trail.extend ids (unseen.erase id)
      (trail.goTo id :: found, left)
    else
      trail.extend ids unseen

theorem length_extend (trail : Trail) (ids : List String) (unseen : Ids) :
    (trail.extend ids unseen).1.length + (trail.extend ids unseen).2.size = unseen.size := by
  induction ids generalizing unseen with
  | nil => simp [extend]
  | cons id ids ih =>
    rw [extend]
    split
    · next h =>
      have hsize : (unseen.erase id).size = unseen.size - 1 := by
        rw [Std.ExtTreeSet.size_erase, if_pos (by simpa using h)]
      have hpos : 0 < unseen.size := by
        rcases Nat.eq_zero_or_pos unseen.size with h0 | h0
        · rw [← Std.ExtTreeSet.eq_empty_iff_size_eq_zero] at h0
          simp [h0] at h
        · exact h0
      have := ih (unseen.erase id)
      simp only [List.length_cons]
      omega
    · exact ih unseen

end Trail

namespace Ties

/-- The trails one step beyond those of a level, with the ids that remain unseen. -/
def nextLevel (ties : Ties) : List Trail → Ids → List Trail × Ids
  | [], unseen => ([], unseen)
  | trail :: level, unseen =>
    let (found, left) := trail.extend (ties.neighbors trail.last) unseen
    let (more, left) := ties.nextLevel level left
    (found ++ more, left)

theorem length_nextLevel (ties : Ties) (level : List Trail) (unseen : Ids) :
    (ties.nextLevel level unseen).1.length + (ties.nextLevel level unseen).2.size =
      unseen.size := by
  induction level generalizing unseen with
  | nil => simp [nextLevel]
  | cons trail level ih =>
    have h1 := trail.length_extend (ties.neighbors trail.last) unseen
    have h2 := ih (trail.extend (ties.neighbors trail.last) unseen).2
    simp only [nextLevel, List.length_append]
    omega

/-- The first trail to reach the goal on a level after the given one. -/
def search (ties : Ties) (goal : String) (level : List Trail) (unseen : Ids) : Option Trail :=
  let next := ties.nextLevel level unseen
  match next.1.find? fun trail => trail.last = goal with
  | some trail => some trail
  | none => if next.1 = [] then none else ties.search goal next.1 next.2
termination_by unseen.size
decreasing_by
  have h := ties.length_nextLevel level unseen
  have : 0 < (ties.nextLevel level unseen).1.length := List.length_pos_iff.2 ‹_›
  omega

/-- All ids that occur in some row. -/
def mentioned (ties : Ties) : Ids :=
  (ties.values.flatMap Std.ExtTreeMap.keys).foldl (fun ids id => ids.insert id) ∅

/-- The shortest chain of tied employees between two ids, both included; empty if there is none.
Of several, the least. -/
def chain (ties : Ties) (source goal : String) : List String :=
  if source = goal then [source]
  else
    match ties.search goal [Trail.start source] (ties.mentioned.erase source) with
    | some trail => trail.toList
    | none => []

end Ties

end Teamwork
