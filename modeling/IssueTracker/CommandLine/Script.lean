import IssueTracker.CommandLine.Command
import IssueTracker.Connection
import IssueTracker.Json.Reader
import IssueTracker.Snapshot.Operations
/-!
# What commands do

A command makes requests and prints lines. It stops at the first failure, and what it has
printed by then stays printed.
-/

namespace IssueTracker.CommandLine

/-- Why a command stops. -/
inductive Failure where
  | tracker (e : TrackerError)
  | noSuchIssue (id : String)
  deriving DecidableEq

/-- The wording of a failure, where it has one of its own. -/
def Failure.message? : Failure → Option String
  | tracker e => e.message?
  | noSuchIssue id => some ("issue " ++ id ++ " does not exist")

/-- What a command does: requests, lines that are printed, perhaps a failure. -/
abbrev Script := ExceptT Failure (StateT (List String) Program)

/-- Prints a line. -/
def print (line : String) : Script Unit := modify (· ++ [line])

/-- Does what a program does; its error is the failure of the command. -/
def perform {α : Type} (program : Program α) : Script α := do
  match ← liftM (m := StateT (List String) Program) program.attempt with
  | .ok a => return a
  | .error e => throw (.tracker e)

/-- Fetches the issue of an id, which has to be there. -/
def fetch (id : String) : Script Snapshot := do
  match ← perform (Project.issue id) with
  | some issue => return issue
  | none => throw (.noSuchIssue id)

/-- The line of a link. -/
def linkLine : Link → String
  | .web link => "link: " ++ link.title ++ " <" ++ link.uri.text ++ ">"
  | .issue target relationship => relationship ++ ": " ++ target.id ++ " " ++ target.title

/-- The lines of a comment. -/
def commentLines (c : Comment) : String :=
  "--- " ++ c.author.fullName ++ " (" ++ c.createdAt.render ++ ")\n" ++ c.body

/-- Prints an issue. -/
def printIssue (p : Project) (issue : Snapshot) : Script Unit := do
  print (issue.id ++ " [" ++ issue.status ++ "] " ++ issue.title)
  print (← perform (.done (issue.webUrl p))).text
  if issue.body ≠ "" then print ("\n" ++ issue.body ++ "\n")
  let (labels, _) ← perform issue.fetchLabels
  if !labels.isEmpty then print ("labels: " ++ Text.join ", " labels)
  (issue.properties p.codec).forM fun (name, value) => print (name ++ ": " ++ value.render)
  (← perform (issue.links p)).forM fun link => print (linkLine link)
  (← perform (issue.comments p)).forM fun comment => print (commentLines comment)

/-- What a command does in a project. -/
def Command.script (p : Project) : Command → Script Unit
  | .display issue => do printIssue p (← fetch issue)
  | .move issue target => do perform ((← fetch issue).setState target)
  | .comment issue body => do
    let issue ← fetch issue
    let comment ← perform (issue.addComment p body)
    print (← perform (.done (issue.commentUrl p comment.id))).text
  | .link issue uri title summary relationship => do
    let link ← perform (.done (WebLink.parse uri title))
    perform ((← fetch issue).addLink p (.web { link with summary, relationship }))
  | .unlink issue uri => do
    let link ← perform (.done (WebLink.parse uri ""))
    perform ((← fetch issue).removeLink p (.web link))
  | .linkIssue issue relationship target => do
    let target ← fetch target
    perform ((← fetch issue).addLink p (.issue target relationship))
  | .addLabel issue label => do perform ((← fetch issue).addLabel label).2
  | .removeLabel issue label => do perform ((← fetch issue).removeLabel label).2
  | .setProperty issue name value => do
    perform ((← fetch issue).setProperty p name ((Json.parse? value).getD (.str value)))

/-! ## Endings -/

/-- What has been printed when a command ends, and the failure if there was one. -/
structure Ending where
  lines : List String
  failure : Option Failure

/-- The code that the program ends with. -/
def Ending.exitCode (e : Ending) : Nat := if e.failure.isNone then 0 else 1

/-- The code of a command line that is not rightly written. -/
def misuseCode : Nat := 2

/-- A command as one program. -/
def Command.program (p : Project) (c : Command) : Program Ending := do
  let (result, lines) ← (c.script p).run.run []
  return ⟨lines, match result with | .ok _ => none | .error e => some e⟩

/-- The project that settings describe, and the connection to its tracker. -/
def openProject (s : Settings) : Except TrackerError (Connection × Project) := do
  let connection ← Connection.ofSettings s
  let project ← Project.ofSettings s
  return (connection, project)

/-- A command under some settings, given what the network brings back for messages. -/
def Command.run (network : Http.Message → Option Http.Reply) (s : Settings) (c : Command) :
    Ending :=
  match openProject s with
  | .error e => ⟨[], some (.tracker e)⟩
  | .ok (connection, project) =>
    let respond : Program.Responder Unit := fun _ r => ((), connection.send network r)
    match ((c.program project).run respond () none).result with
    | .ok ending => ending
    | .error e => ⟨[], some (.tracker e)⟩

end IssueTracker.CommandLine
