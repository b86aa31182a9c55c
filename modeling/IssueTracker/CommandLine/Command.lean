import IssueTracker.CommandLine.Arguments
import IssueTracker.State
/-!
# Commands

What the command line can be asked for, and how it is written.
-/

namespace IssueTracker.CommandLine

/-- A command. -/
inductive Command where
  /-- Prints an issue with its labels, links and properties. -/
  | display (issue : String)
  /-- Moves an issue into a state. -/
  | move (issue : String) (target : State)
  | comment (issue body : String)
  /-- Attaches a web link. -/
  | link (issue uri title : String) (summary relationship : Option String)
  /-- Removes a web link, wherever it is kept. -/
  | unlink (issue uri : String)
  /-- Links two issues by the name of a relationship. -/
  | linkIssue (issue relationship target : String)
  | addLabel (issue label : String)
  | removeLabel (issue label : String)
  /-- Sets a property; the value is a document, or else a text. -/
  | setProperty (issue name value : String)
  deriving DecidableEq

/-- What a command line asks for. -/
inductive Order where
  | run (settingsFile : Option String) (command : Command)
  | help
  /-- The version, for the command of this name. -/
  | version (name : String)

/-- How a command is written. -/
structure Form where
  name : String
  grammar : Grammar
  build : Given → Option Command

/-- The form of a command with words alone. -/
def Form.plain (name : String) (count : Nat) (build : List String → Option Command) : Form where
  name
  grammar := ⟨[], .words (List.replicate count fun _ => true)⟩
  build given := build given.words

/-- The forms below `label`. -/
def labelForms : List Form := [
  .plain "add" 2 fun
    | [issue, label] => some (.addLabel issue label)
    | _ => none,
  .plain "remove" 2 fun
    | [issue, label] => some (.removeLabel issue label)
    | _ => none]

/-- The form that moves an issue; its second word has to be a state. -/
def moveForm : Form where
  name := "state"
  grammar := ⟨[], .words [fun _ => true, fun word => (State.parse? word).isSome]⟩
  build
    | ⟨_, [issue, target]⟩ => (State.parse? target).map (.move issue)
    | _ => none

/-- The form that attaches a web link. -/
def linkForm : Form where
  name := "link"
  grammar := ⟨[⟨"summary", none, true⟩, ⟨"relationship", none, true⟩],
    .words (List.replicate 3 fun _ => true)⟩
  build given :=
    match given.words with
    | [issue, uri, title] =>
      some (.link issue uri title (given.setting? "summary") (given.setting? "relationship"))
    | _ => none

/-- The forms at the top, those below `label` apart. -/
def topForms : List Form := [
  .plain "show" 1 fun
    | [issue] => some (.display issue)
    | _ => none,
  moveForm,
  .plain "comment" 2 fun
    | [issue, body] => some (.comment issue body)
    | _ => none,
  linkForm,
  .plain "unlink" 2 fun
    | [issue, uri] => some (.unlink issue uri)
    | _ => none,
  .plain "link-issue" 3 fun
    | [issue, relationship, target] => some (.linkIssue issue relationship target)
    | _ => none,
  .plain "property" 3 fun
    | [issue, name, value] => some (.setProperty issue name value)
    | _ => none]

/-- The program's name in what it says of its version. -/
def programName : String := "issue_bridge"

/-- The program's version. -/
def programVersion : String := "0.3.1"

/-- The arguments before the name of a command. -/
def topGrammar : Grammar := ⟨[⟨"config", some 'c', false⟩], .menu⟩

/-- The order that the arguments of a form make. -/
def Form.order (f : Form) (menu : String) (settingsFile : Option String) (args : List String) :
    Option Order :=
  match f.grammar.read .none args with
  | .complete given => (f.build given).map (.run settingsFile)
  | .help => some .help
  | .version => some (.version (menu ++ "-" ++ f.name))
  | _ => none

/-- The order that arguments after `label` make. -/
def labelOrder (menu : String) (settingsFile : Option String) (args : List String) :
    Option Order :=
  match (Grammar.mk [] .menu).read .none args with
  | .help => some .help
  | .version => some (.version menu)
  | .command _ name rest =>
    if name = "help" then some .help
    else (labelForms.find? (·.name = name)).bind fun f => f.order menu settingsFile rest
  | _ => none

/-- The order that the arguments of the program make, if they are rightly written. -/
def order? (args : List String) : Option Order :=
  match topGrammar.read .none args with
  | .help => some .help
  | .version => some (.version programName)
  | .command given name rest =>
    let settingsFile := given.setting? "config"
    if name = "help" then some .help
    else if name = "label" then labelOrder (programName ++ "-label") settingsFile rest
    else (topForms.find? (·.name = name)).bind fun f => f.order programName settingsFile rest
  | _ => none

/-- How the program is used. -/
def usage : List String := [
  "Usage: issue-bridge [--config FILE] COMMAND",
  "",
  "  show ISSUE",
  "  state ISSUE open|resolved|closed",
  "  comment ISSUE BODY",
  "  link ISSUE URI TITLE [--summary TEXT] [--relationship NAME]",
  "  unlink ISSUE URI",
  "  link-issue ISSUE RELATIONSHIP TARGET",
  "  label add|remove ISSUE LABEL",
  "  property ISSUE NAME VALUE"]

end IssueTracker.CommandLine
