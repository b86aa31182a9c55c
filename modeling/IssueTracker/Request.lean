import IssueTracker.Error
import IssueTracker.Json.Basic
/-!
# Requests

Single calls against the tracker. A request may tolerate some statuses: an answer with one of
them counts as success and stands for a document.
-/

namespace IssueTracker

/-- The method of a request. -/
inductive Method where
  | get
  | post
  | put
  | delete
  deriving DecidableEq, Repr

/-- The method's name on the wire. -/
def Method.name : Method → String
  | get => "GET"
  | post => "POST"
  | put => "PUT"
  | delete => "DELETE"

/-- A call, its path relative to the root of the tracker's interface. -/
structure Request where
  method : Method
  path : String
  params : List (String × String)
  body : Option Json
  /-- The tolerated statuses and the documents they stand for. -/
  tolerated : List (Nat × Json)

/-- What comes back for a request. -/
abbrev Answer := Except TrackerError Json

namespace Request

/-- A call that reads. -/
def get (path : String) : Request := ⟨.get, path, [], none, []⟩

/-- A call that creates. -/
def post (path : String) (body : Json) : Request := ⟨.post, path, [], some body, []⟩

/-- A call that replaces. -/
def put (path : String) (body : Json) : Request := ⟨.put, path, [], some body, []⟩

/-- A call that removes. -/
def delete (path : String) : Request := ⟨.delete, path, [], none, []⟩

/-- The request with one more parameter. -/
def param (r : Request) (name value : String) : Request :=
  { r with params := r.params ++ [(name, value)] }

/-- The request with one more tolerated status. -/
def onStatus (r : Request) (status : Nat) (document : Json) : Request :=
  { r with tolerated := r.tolerated ++ [(status, document)] }

/-- The first parameter of a name. -/
def param? (r : Request) (name : String) : Option String :=
  (r.params.find? (·.1 = name)).map (·.2)

/-- The document that a tolerated status stands for. -/
def tolerate? (r : Request) (status : Nat) : Option Json :=
  (r.tolerated.find? (·.1 = status)).map (·.2)

/-- The answer with a tolerated status taken as success. -/
def settle (r : Request) : Answer → Answer
  | .error (.status code body) =>
    match r.tolerate? code with
    | some document => .ok document
    | none => .error (.status code body)
  | answer => answer

/-- The request in short: method and path. -/
def line (r : Request) : String := r.method.name ++ " " ++ r.path

end Request

end IssueTracker
