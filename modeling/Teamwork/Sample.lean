import Teamwork.Graph

/-!
# A sample graph

Eight employees of several departments, their chat identities, and eighteen interactions in the
weeks before a given instant. The interactions lie whole hours before that instant, so questions
about recent work have the same answers whenever the sample is made.

## Main definitions

* `Sample.graph?` — the sample as of an instant.
-/

namespace Teamwork.Sample

/-- The employees, with a mail address made from their name. -/
def employees : List Employee :=
  [("E-2001", "Alice", "alice@acme.com", "Platform"), ("E-2002", "Bob", "bob@acme.com", "SRE"),
    ("E-2003", "Cara", "cara@acme.com", "Payments"),
    ("E-2004", "Dave", "dave@acme.com", "Platform"),
    ("E-2005", "Eve", "eve@acme.com", "Security"), ("E-2006", "Frank", "frank@acme.com", "Mobile"),
    ("E-2007", "Grace", "grace@acme.com", "Data"), ("E-2008", "Heidi", "heidi@acme.com", "UX")].map
    fun (id, name, email, department) => { id, name, email, department }

/-- One chat identity for each employee. -/
def identities : List Identity :=
  [("U101", "alice", "E-2001"), ("U102", "bob", "E-2002"), ("U103", "cara", "E-2003"),
    ("U104", "dave", "E-2004"), ("U105", "eve", "E-2005"), ("U106", "frank", "E-2006"),
    ("U107", "grace", "E-2007"), ("U108", "heidi", "E-2008")].map
    fun (externalId, handle, employeeId) => { externalId, handle, employeeId }

/-- The interactions: issue, two chat identities, kind, and how many hours ago. The last four are
more than two weeks old. -/
def interactions : List (String × String × String × Kind × Nat) :=
  [("ISSUE-800", "U101", "U102", .issue, 3 * 24), ("BUG-801", "U101", "U102", .bug, 24),
    ("CR-802", "U101", "U103", .codeReview, 2 * 24), ("ISSUE-803", "U101", "U104", .issue, 10 * 24),
    ("BUG-804", "U102", "U104", .bug, 5 * 24), ("DISC-805", "U102", "U105", .discussion, 7),
    ("ISSUE-806", "U103", "U107", .issue, 6 * 24), ("CR-807", "U104", "U106", .codeReview, 4 * 24),
    ("ISSUE-808", "U105", "U106", .issue, 24), ("BUG-809", "U105", "U108", .bug, 2 * 24),
    ("DISC-810", "U106", "U107", .discussion, 3 * 24), ("CR-811", "U107", "U108", .codeReview, 24),
    ("ISSUE-812", "U101", "U102", .issue, 2 * 24), ("DISC-813", "U105", "U106", .discussion, 12),
    ("ISSUE-750", "U101", "U108", .issue, 40 * 24), ("BUG-751", "U102", "U103", .bug, 20 * 24),
    ("DISC-752", "U104", "U107", .discussion, 25 * 24),
    ("ISSUE-753", "U106", "U102", .issue, 31 * 24)]

/-- The interactions as of an instant, unless one of them is out of range. -/
def interactionsAt? (now : Time.Timestamp) : Option (List Interaction) :=
  interactions.mapM fun (issueKey, employeeA, employeeB, kind, hours) => do
    let timestamp ← now.minus? (.ofHours hours)
    return { issueKey, employeeA, employeeB, kind, timestamp }

/-- The graph with the given records, entered one after the other; nothing if one is refused. -/
def build? (employees : List Employee) (identities : List Identity) (log : List Interaction) :
    Except GraphError Graph := do
  let g ← employees.foldlM Graph.addEmployee Graph.empty
  let g ← identities.foldlM Graph.addIdentity g
  log.foldlM (fun g i => (g.recordByIdentity i).map (·.2)) g

/-- The sample as of an instant. There is none when an interaction would be out of range. -/
def graph? (now : Time.Timestamp) : Option Graph := do
  (build? employees identities (← interactionsAt? now)).toOption

end Teamwork.Sample
