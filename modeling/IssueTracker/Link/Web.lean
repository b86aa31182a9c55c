import IssueTracker.Error
import IssueTracker.Url.Parser
/-!
# Web links

A web link is an address with a title and optional presentation. Where it happens to be
stored is not part of what it is.
-/

namespace IssueTracker

/-- A small picture next to a link. -/
structure Icon where
  url : Option Url
  title : Option String
  deriving DecidableEq

/-- No picture. -/
def Icon.none : Icon := ⟨.none, .none⟩

/-- Whether there is nothing to show. -/
def Icon.isEmpty (icon : Icon) : Bool := icon.url.isNone && icon.title.isNone

/-- An address with its title and presentation. -/
structure WebLink where
  uri : Url
  title : String
  summary : Option String
  relationship : Option String
  resolved : Bool
  icon : Icon
  statusIcon : Icon
  /-- The id of the stored entry that the link was read from, as it is written there. -/
  storedId : Option String
  deriving DecidableEq

namespace WebLink

/-- The link with a title and no presentation. -/
def ofUri (uri : Url) (title : String) : WebLink where
  uri
  title
  summary := none
  relationship := none
  resolved := false
  icon := .none
  statusIcon := .none
  storedId := none

/-- The link to a written address. -/
def parse (uri title : String) : Except TrackerError WebLink :=
  match Url.parse uri with
  | .ok url => .ok (ofUri url title)
  | .error e =>
    .error (.malformedInput ("invalid link URI '" ++ uri ++ "': " ++ e.message))

/-- The link without the id it is stored under. -/
def unstored (l : WebLink) : WebLink := { l with storedId := none }

/-- Links are equal when everything but the stored id is. -/
instance : BEq WebLink := ⟨fun a b => a.unstored = b.unstored⟩

/-- Whether two links have the same address and title. -/
def sameTarget (a b : WebLink) : Bool := a.uri = b.uri && a.title = b.title

/-- What the ids of this library's entries start with. -/
def idMark : String := "skaralink="

/-- The id that an address gives. -/
def derivedId (uri : Url) : String := idMark ++ uri.text

/-- The id of the link's entry: the one it is stored under, or else the one its address
gives. -/
def globalId (l : WebLink) : String := l.storedId.getD (derivedId l.uri)

end WebLink

end IssueTracker
