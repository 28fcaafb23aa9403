/-!
# Names in a snapshot

The names of the arrays of a snapshot and of the fields of their records, for the reader and the
writer alike. Chat identities have gone by another name; snapshots that still use it are read, never
written.
-/

namespace Teamwork.Snapshot.Names

/-! ### Arrays -/

def employees : String := "employees"
def identities : String := "chatIdentities"
def oldIdentities : String := "slackUsers"
def interactions : String := "interactions"

/-! ### Fields of an employee -/

def id : String := "id"
def name : String := "name"
def email : String := "email"
def department : String := "department"

/-! ### Fields of a chat identity -/

def externalId : String := "externalId"
def oldExternalId : String := "slackId"
def handle : String := "handle"
def employeeId : String := "employeeId"

/-! ### Fields of an interaction -/

def issueKey : String := "issueKey"
def employeeA : String := "employeeA"
def employeeB : String := "employeeB"
def kind : String := "type"
def timestamp : String := "timestamp"

end Teamwork.Snapshot.Names
