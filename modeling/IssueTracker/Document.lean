import IssueTracker.Error
import IssueTracker.Json.Pointer
import IssueTracker.Timestamp
/-!
# Fetched documents

Reading values of a known type out of a fetched document. What is missing or of another type
is an error that names the place.
-/

namespace IssueTracker.Json

/-- The value at a place. -/
def valueAt (doc : Json) (p : Pointer) : Except TrackerError Json :=
  match doc.pointer p with
  | some value => .ok value
  | none => .error (.document ("missing " ++ p.text))

/-- The string at a place. -/
def stringAt (doc : Json) (p : Pointer) : Except TrackerError String := do
  match ← doc.valueAt p with
  | .str s => .ok s
  | _ => .error (.document (p.text ++ " is not a string"))

/-- The string at a place, if there is one. -/
def stringAt? (doc : Json) (p : Pointer) : Option String := (doc.pointer p).bind asString?

/-- The id at a place: a string, or a number as it is written. -/
def idAt (doc : Json) (p : Pointer) : Except TrackerError String := do
  match ← doc.valueAt p with
  | .str s => .ok s
  | .num n => .ok n.render
  | _ => .error (.document (p.text ++ " is not an id"))

/-- The point in time at a place. -/
def timestampAt (doc : Json) (p : Pointer) : Except TrackerError Timestamp := do
  match Timestamp.parse? (← doc.stringAt p) with
  | some t => .ok t
  | none => .error .timestamp

/-- The items at a place; where there is no array there are none. -/
def itemsAt (doc : Json) (p : Pointer) : List Json := ((doc.pointer p).bind asArray?).getD []

end IssueTracker.Json
