import IssueTracker.Comment.Store
import IssueTracker.Link.CommentForm
import IssueTracker.Link.EntryForm
/-!
# Where web links are kept

Web links are kept among the tracker's remote links, or in comments where a project restricts
who may see them. New links go to one of the two; links are looked for and removed in both,
since they may be older than the restriction.
-/

namespace IssueTracker

/-! ## Remote links -/

/-- The remote links of one issue. -/
structure RemoteLinks where
  issuePath : String

namespace RemoteLinks

/-- The path of all entries. -/
def path (store : RemoteLinks) : String := store.issuePath ++ "/remotelink"

/-- The links of entries, in their order. -/
def readEntries : List Json → Program (List WebLink)
  | [] => return []
  | entry :: rest => do
    let link ← Program.logged (WebLink.EntryForm.read entry)
    let links ← readEntries rest
    return link :: links

/-- This library's own links. Whoever may not see remote links sees none. -/
def list (store : RemoteLinks) : Program (List WebLink) := do
  let document ← Program.execute ((Request.get store.path).onStatus 401 (.arr []))
  readEntries ((document.asArray?.getD []).filter WebLink.EntryForm.isOwn)

/-- Adds a link. The tracker updates the entry with the link's id if there is one. -/
def add (store : RemoteLinks) (link : WebLink) : Program Unit :=
  Program.perform (.post store.path (WebLink.EntryForm.render link))

/-- Adds an id that is not there yet. -/
def addId (ids : List String) (id : String) : List String :=
  if ids.contains id then ids else ids ++ [id]

/-- The ids to remove for a link: its own, and those of all entries with its address, which may
be stored under another spelling of it. -/
def idsToRemove (link : WebLink) (stored : List WebLink) : List String :=
  ((stored.filter (·.uri = link.uri)).map WebLink.globalId).foldl addId [link.globalId]

/-- Removes the entry of an id. One that is gone already counts as removed. -/
def deleteId (store : RemoteLinks) (id : String) : Program Unit :=
  Program.perform
    (((Request.delete store.path).param "globalId" id).onStatus 404 CommentStore.alreadyDeleted)

/-- Removes the entries of ids in turn. -/
def deleteIds (store : RemoteLinks) : List String → Program Unit
  | [] => return ()
  | id :: rest => do
    store.deleteId id
    deleteIds store rest

/-- Removes every entry with a link's address. -/
def remove (store : RemoteLinks) (link : WebLink) : Program Unit := do
  let stored ← store.list
  store.deleteIds (idsToRemove link stored)

end RemoteLinks

/-! ## Links in comments -/

namespace CommentStore

/-- The links of comments, in their order. -/
def readLinks : List Comment → Program (List WebLink)
  | [] => return []
  | comment :: rest =>
    let reading := WebLink.CommentForm.read comment.body
    Program.warnAll reading.warnings do
      let links ← readLinks rest
      return reading.link?.toList ++ links

/-- The links that comments stand for. -/
def listLinks (store : CommentStore) : Program (List WebLink) := do
  readLinks (← store.list)

/-- Adds a link unless one with its address and title is there. -/
def addLink (store : CommentStore) (link : WebLink) : Program Unit := do
  let posted ← store.listLinks
  if posted.any (·.sameTarget link) then return ()
  else
    let _ ← store.create (WebLink.CommentForm.render link)
    return ()

/-- Removes those of some comments that stand for a link with this address. -/
def removeFrom (store : CommentStore) (uri : Url) : List Comment → Program Unit
  | [] => return ()
  | comment :: rest =>
    let reading := WebLink.CommentForm.read comment.body
    Program.warnAll reading.warnings do
      if reading.link?.any (·.uri = uri) then store.delete comment.id
      removeFrom store uri rest

/-- Removes every comment that stands for a link with this link's address. -/
def removeLink (store : CommentStore) (link : WebLink) : Program Unit := do
  store.removeFrom link.uri (← store.list)

end CommentStore

end IssueTracker
