import IssueTracker.Document
import IssueTracker.Link.Web
import IssueTracker.Warning
/-!
# Links as remote-link entries

The entries of the tracker's own collection of remote links. Only entries whose id carries
this library's mark are its own; the others belong to somebody else.
-/

namespace IssueTracker.WebLink.EntryForm

open Json (Pointer)

/-- Whether an entry is this library's own. -/
def isOwn (entry : Json) : Bool :=
  match (entry.get? "globalId").bind Json.asString? with
  | some id => idMark.toList.isPrefixOf id.toList
  | none => false

/-- The address of an icon; one that is no URL is reported and left out. -/
def iconUrl (entry : Json) (p : Pointer) : Option Url × List Warning :=
  match entry.stringAt? p with
  | none => (none, [])
  | some raw =>
    match Url.parse raw with
    | .ok url => (some url, [])
    | .error _ => (none, [.invalidIcon])

/-- The link that an entry describes, and what is reported meanwhile. -/
def read (entry : Json) : Except TrackerError (WebLink × List Warning) := do
  let raw ← entry.stringAt (.ofKeys ["object", "url"])
  let uri ← match Url.parse raw with
    | .ok url => .ok url
    | .error e =>
      .error (.malformedInput ("remote link url '" ++ raw ++ "': " ++ e.message))
  let title ← entry.stringAt (.ofKeys ["object", "title"])
  let icon := iconUrl entry (.ofKeys ["object", "icon", "url16x16"])
  let statusIcon := iconUrl entry (.ofKeys ["object", "status", "icon", "url16x16"])
  let link : WebLink := {
    uri
    title
    summary := entry.stringAt? (.ofKeys ["object", "summary"])
    relationship := entry.stringAt? (.ofKeys ["relationship"])
    resolved :=
      ((entry.pointer (.ofKeys ["object", "status", "resolved"])).bind Json.asBool?).getD false
    icon := ⟨icon.1, entry.stringAt? (.ofKeys ["object", "icon", "title"])⟩
    statusIcon := ⟨statusIcon.1, entry.stringAt? (.ofKeys ["object", "status", "icon", "title"])⟩
    storedId := entry.stringAt? (.ofKeys ["globalId"])
  }
  return (link, icon.2 ++ statusIcon.2)

/-- A member for a text that may be absent. -/
def optional (key : String) : Option String → List (String × Json)
  | some text => [(key, .str text)]
  | none => []

/-- The object of an icon. -/
def iconObject (icon : Icon) : Json :=
  .ofMembers (optional "url16x16" (icon.url.map Url.text) ++ optional "title" icon.title)

/-- The entry for a link. -/
def render (l : WebLink) : Json :=
  .ofMembers ([
    ("globalId", .str l.globalId),
    ("object", .ofMembers ([
      ("url", .str l.uri.text),
      ("title", .str l.title),
      ("icon", iconObject l.icon),
      ("status", .ofMembers [
        ("resolved", .bool l.resolved),
        ("icon", iconObject l.statusIcon)])] ++
      optional "summary" l.summary))] ++
    optional "relationship" l.relationship)

end IssueTracker.WebLink.EntryForm
