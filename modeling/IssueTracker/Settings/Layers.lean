import IssueTracker.Settings
import IssueTracker.Settings.Tree
import IssueTracker.Text.Ascii
import IssueTracker.Toml.Reader
/-!
# Settings in layers

Settings come from a file, and over it from the variables of the environment whose names start
with a prefix: `ISSUE_BRIDGE__LOG__DIRECTIVES` sets `log.directives`.
-/

namespace IssueTracker.Settings

/-! ## From trees -/

namespace Tree

/-- The fields of a record: of a table by name, of a list by position. What else there is does
not matter. -/
def fields (names : List String) : Tree → Except TrackerError (List (Option Tree))
  | .table entries => .ok (names.map fun name => Table.get? name entries)
  | .list items =>
    .ok ((items.take names.length).map some ++
      List.replicate (names.length - items.length) none)
  | _ => .error .config

/-- The text of a setting that has to be there. -/
def toText : Option Tree → Except TrackerError String
  | some (.text s) => .ok s
  | _ => .error .config

/-- The text of a setting that may be absent. -/
def toText? : Option Tree → Except TrackerError (Option String)
  | none | some .unset => .ok none
  | some (.text s) => .ok (some s)
  | _ => .error .config

/-- The kind of a field: a name, or a table with the name as its only key. The case of letters
does not matter. -/
def toKind : Tree → Except TrackerError FieldKind
  | .text name => kind name .unset
  | .table [(name, content)] => kind name content
  | _ => .error .config
where
  /-- The kind of a name, with what stands under it. -/
  kind (name : String) (content : Tree) : Except TrackerError FieldKind :=
    match Text.lower name with
    | "plain" => .ok .plain
    | "named" => .ok .named
    | "named_list" => .ok .namedList
    | "select" => .ok .select
    | "cascading" => do
      match ← content.fields ["parent"] with
      | [parent] => return .cascading (← toText parent)
      | _ => throw .config
    | _ => .error .config

/-- A site's own field, a plain choice unless told otherwise. -/
def toMapping (tree : Tree) : Except TrackerError FieldMapping := do
  match ← tree.fields ["property", "field", "kind"] with
  | [property, field, kind] =>
    let property ← toText property
    let field ← toText field
    let kind ← match kind with
      | none => pure .select
      | some kind => kind.toKind
    return ⟨property, field, kind⟩
  | _ => throw .config

/-- The fields of a list. -/
def toMappings : Tree → Except TrackerError (List FieldMapping)
  | .list items => items.mapM toMapping
  | _ => throw .config

/-- The log settings of a record. -/
def toLog (tree : Tree) : Except TrackerError LogSettings := do
  match ← tree.fields ["directives", "trace_file"] with
  | [directives, traceFile] => return ⟨← toText? directives, ← toText? traceFile⟩
  | _ => throw .config

/-- The settings of a tree; what it lacks is standard. -/
def toSettings (tree : Tree) : Except TrackerError Settings := do
  match ← tree.fields
      ["url", "token", "username", "visibility_role", "custom_fields", "log"] with
  | [url, token, username, role, customFields, log] =>
    return {
      url := ← match url with
        | none => pure standard.url
        | some url => toText (some url)
      token := ← toText? token
      username := ← toText? username
      visibilityRole := ← toText? role
      customFields := ← match customFields with
        | none => pure []
        | some fields => fields.toMappings
      log := ← match log with
        | none => pure standard.log
        | some log => log.toLog
    }
  | _ => throw .config

end Tree

/-! ## From the environment -/

/-- What the names of variables that set something start with, in any case of letters. -/
def variablePrefix : String := "issue_bridge__"

/-- A name with a point in place of every two underscores. -/
def dotted : List Char → List Char
  | '_' :: '_' :: cs => '.' :: dotted cs
  | c :: cs => c :: dotted cs
  | [] => []

/-- The name of the place that a variable sets. -/
def placeName? (name : String) : Option String :=
  let cs := (Text.lower name).toList
  let start := variablePrefix.toList
  if start.isPrefixOf cs then some (String.ofList (dotted (cs.drop start.length))) else none

/-- The settings of the environment; of two variables for one place the later counts. -/
def ofEnvironment (environment : List (String × String)) : List (String × Tree) :=
  Table.ofEntries (environment.filterMap fun (name, value) =>
    (placeName? name).map (·, .text value))

/-! ## Loading -/

/-- A settings file. -/
inductive File where
  /-- None is named. -/
  | unnamed
  /-- There is none of its name, or it cannot be read. -/
  | unreadable
  | holding (text : String)

/-- What a file sets. -/
def File.layer : File → Except TrackerError (List (String × Tree))
  | .unnamed => .ok []
  | .unreadable => .error .config
  | .holding text =>
    match Toml.parse? text with
    | some entries => .ok (Tree.ofEntries entries)
    | none => .error .config

/-- The settings of a file and, over it, of the environment. -/
def load (file : File) (environment : List (String × String)) : Except TrackerError Settings := do
  let tree := Tree.layer (← file.layer) (.table [])
  (Tree.layer (ofEnvironment environment) tree).toSettings

end IssueTracker.Settings
