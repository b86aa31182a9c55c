import IssueTracker.Comment.Store
import IssueTracker.Link
import IssueTracker.Link.Channel
import IssueTracker.Settings
import IssueTracker.Workflow
/-!
# Projects

What an issue needs to know about its project, and what can be asked of a project: its
vocabulary of link types, which is fetched once, its issues, and links between them.
-/

namespace IssueTracker

/-- What does not change while a project is in use. -/
structure Project where
  webUrl : Url
  visibilityRole : Option String
  codec : PropertyCodec

namespace Project

/-- The project that settings describe. -/
def ofSettings (settings : Settings) : Except TrackerError Project :=
  match settings.baseUrl with
  | .ok webUrl => .ok ⟨webUrl, settings.visibilityRole, .withCustom settings.customFields⟩
  | .error e => .error (.url e)

/-- Whether what is written must be restricted to a role. -/
def isRestricted (p : Project) : Bool := p.visibilityRole.isSome

/-- Fetches the link types. -/
def fetchLinkTypes : Program (List LinkType) := do
  let document ← Program.execute (.get "issueLinkType")
  .done ((document.itemsAt (.ofKeys ["issueLinkTypes"])).mapM LinkType.ofJson)

/-- The link types. They are remembered once they have been fetched. -/
def linkTypes : Program (List LinkType) :=
  .consult fun
    | some types => return types
    | none => do
      let types ← fetchLinkTypes
      .remember types (return types)

/-- The issue of an id, if the tracker knows it. -/
def issue (id : String) : Program (Option Snapshot) := do
  let document ← Program.execute ((Request.get ("issue/" ++ id)).onStatus 404 .null)
  if document.isNull then return none
  else return some (← Snapshot.ofJson document)

/-- The document of a link of a type between two issues. -/
def issueLinkDocument (name inward outward : String) : Json :=
  .ofMembers [
    ("type", .ofMembers [("name", .str name)]),
    ("inwardIssue", .ofMembers [("key", .str inward)]),
    ("outwardIssue", .ofMembers [("key", .str outward)])]

/-- Links two issues. -/
def createIssueLink (document : Json) : Program Unit :=
  Program.perform (.post "issueLink" document)

end Project

end IssueTracker
