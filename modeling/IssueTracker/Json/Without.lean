import IssueTracker.Json.Basic
import IssueTracker.Text.Split
/-!
# Documents without some members

Removing the members that dotted paths name, such as `fields.updated`. Paths go through
objects only; where one does not lead on, nothing is removed.
-/

namespace IssueTracker.Json

/-- The document without the member at the end of a path of keys. -/
def erasePath : List String → Json → Json
  | [], doc => doc
  | [key], .obj members => .obj (members.filter fun member => member.1 ≠ key)
  | key :: keys, .obj members =>
    .obj (members.map fun member =>
      if member.1 = key then (member.1, erasePath keys member.2) else member)
  | _ :: _, doc => doc

/-- The keys of a dotted path. -/
def keysOfPath (path : String) : List String := Text.split '.' path

/-- The document without the members that these dotted paths name. -/
def withoutPaths (doc : Json) (paths : List String) : Json :=
  paths.foldl (fun doc path => erasePath (keysOfPath path) doc) doc

/-- The document at the end of a path of keys, through objects only. -/
def getPath? : List String → Json → Option Json
  | [], doc => some doc
  | key :: keys, doc => (doc.get? key).bind (getPath? keys)

end IssueTracker.Json
