import IssueTracker.Json.Reader
import IssueTracker.Request
import IssueTracker.Text.Blank
/-!
# Messages

A message to a tracker and the reply to it. A reply with a status from 200 to 299 is a success
and stands for the document of its body, and an empty body for the empty document.
-/

namespace IssueTracker.Http

/-- A message with everything that is sent. -/
structure Message where
  method : Method
  url : Url
  headers : List (String × String)
  body : Option String

/-- What comes back for a message. -/
structure Reply where
  status : Nat
  body : String

/-- Whether a status means success. -/
def isSuccess (status : Nat) : Bool := 200 ≤ status && status ≤ 299

/-- What a reply says about the request. -/
def Reply.answer (r : Reply) : Answer :=
  if !isSuccess r.status then .error (.status r.status r.body)
  else if (Text.trim r.body).isEmpty then .ok .empty
  else
    match Json.parse? r.body with
    | some document => .ok document
    | none => .error .json

/-- Whether a text may stand in a header. -/
def isHeaderText (s : String) : Bool :=
  s.toList.all fun c => c = '\t' || (0x20 ≤ c.toNat && c.toNat ≠ 0x7F)

end IssueTracker.Http
