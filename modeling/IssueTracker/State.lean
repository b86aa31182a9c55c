import IssueTracker.Text.Ascii
import IssueTracker.Text.Blank
/-!
# States

The three states that an issue can be driven to. A tracker's status names are free text;
exactly two of them are terminal and all others count as open.
-/

namespace IssueTracker

/-- The state of an issue. -/
inductive State where
  | opened
  | resolved
  | closed
  deriving DecidableEq, Repr, Inhabited

namespace State

/-- The state as it is shown, which is also the status a transition into it must lead to. -/
def name : State → String
  | opened => "Open"
  | resolved => "Resolved"
  | closed => "Closed"

/-- The state that a status name stands for. -/
def ofStatus (status : String) : State :=
  if status = "Closed" then closed
  else if status = "Resolved" then resolved
  else opened

/-- The state with exactly this name. -/
def ofName? (name : String) : Option State :=
  [opened, resolved, closed].find? (·.name = name)

/-- How a written state is compared: without blanks around it, in lower case. -/
def normalize (text : String) : String := Text.lower (Text.trim text)

/-- The state a user writes. -/
def parse? (text : String) : Option State :=
  match normalize text with
  | "open" => some opened
  | "resolved" => some resolved
  | "closed" => some closed
  | _ => none

end State

end IssueTracker
