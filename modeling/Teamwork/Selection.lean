import Teamwork.Interaction

/-!
# Selections of interactions

A selection says which interactions of a log count: those of a period, of some kinds, of one
employee, or those that two selections agree on. A selection looks at one interaction at a time, so
selecting and replaying commute.

## Main definitions

* `Selection` — the selections, with `Selection.accepts` as their meaning.
* `Selection.withinLast?` — the interactions of the last so many days, hours or milliseconds.

## Main results

* `Selection.accepts_both` — two selections together accept what each of them accepts.
-/

namespace Teamwork

/-- Which interactions of a log count. -/
inductive Selection where
  /-- Those strictly after an instant. -/
  | since (start : Time.Timestamp)
  /-- Those from one instant on and before another. -/
  | between (start stop : Time.Timestamp)
  /-- Those of one of the given kinds. -/
  | kinds (kinds : List Kind)
  /-- Those that an employee takes part in. -/
  | involving (id : String)
  /-- Those that both selections accept. -/
  | both (first second : Selection)
  deriving DecidableEq, Repr

namespace Selection

/-- Whether an interaction counts. -/
def accepts : Selection → Interaction → Bool
  | since start, i => start < i.timestamp
  | between start stop, i => !(i.timestamp < start) && i.timestamp < stop
  | kinds ks, i => ks.contains i.kind
  | involving id, i => i.involves id
  | both first second, i => first.accepts i && second.accepts i

/-- The interactions strictly later than a span before `now`. There is no such selection when that
instant is out of range. -/
def withinLast? (span : Time.Span) (now : Time.Timestamp) : Option Selection :=
  (now.minus? span).map since

theorem accepts_both (first second : Selection) (i : Interaction) :
    (both first second).accepts i = (first.accepts i && second.accepts i) :=
  rfl

end Selection

end Teamwork
