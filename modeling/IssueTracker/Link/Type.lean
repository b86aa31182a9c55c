import IssueTracker.Json.Shape
import IssueTracker.Text.Ascii
/-!
# Link types

The vocabulary for links between issues: each type has a name for either direction, such as
"blocks" and "is blocked by".
-/

namespace IssueTracker

/-- A declared type of issue links. -/
structure LinkType where
  name : String
  inward : String
  outward : String
  deriving DecidableEq, Repr

/-- The side of a link type that a relationship names. -/
inductive Direction where
  | inward
  | outward
  deriving DecidableEq, Repr

namespace LinkType

/-- The side that a relationship names, whatever the case of its letters; outward when it
names both. -/
def direction? (t : LinkType) (relationship : String) : Option Direction :=
  if Text.sameLetters t.outward relationship then some .outward
  else if Text.sameLetters t.inward relationship then some .inward
  else none

/-- The first type with a side of this name. -/
def select? (types : List LinkType) (relationship : String) : Option (LinkType × Direction) :=
  types.findSome? fun t => (t.direction? relationship).map fun d => (t, d)

/-- The type that a record describes. -/
def ofJson (doc : Json) : Except TrackerError LinkType := do
  match ← doc.fields ["name", "inward", "outward"] with
  | [name, inward, outward] => return ⟨← Json.text name, ← Json.text inward, ← Json.text outward⟩
  | _ => throw .json

/-- The record of a type. -/
def toJson (t : LinkType) : Json :=
  .ofMembers [("name", .str t.name), ("inward", .str t.inward), ("outward", .str t.outward)]

end LinkType

end IssueTracker
