import IssueTracker.Json.Shape
import IssueTracker.Property
import IssueTracker.Url.Parser
/-!
# Settings

Where the tracker is, how to sign in, and what a site adds to it.
-/

namespace IssueTracker

/-- Where log output goes and how much of it. -/
structure LogSettings where
  directives : Option String
  traceFile : Option String
  deriving DecidableEq

/-- What a program is told about a tracker. -/
structure Settings where
  url : String
  token : Option String
  username : Option String
  /-- The role that comments are restricted to. With one, web links are kept in comments. -/
  visibilityRole : Option String
  customFields : List FieldMapping
  log : LogSettings
  deriving DecidableEq

namespace Settings

/-- The settings of a program that is told nothing. -/
def standard : Settings where
  url := "http://localhost:8080"
  token := none
  username := none
  visibilityRole := none
  customFields := []
  log := ⟨none, none⟩

/-- The tracker's address with a slash at its end, so that references stay below it. -/
def baseUrl (s : Settings) : Except UrlError Url :=
  (Url.parse s.url).map fun url =>
    if url.path.getLast? = some '/' then url else url.setPath (url.path ++ ['/'])

/-! ## From documents -/

/-- The kind of a field: its name, or an object with the name as its only member. -/
def kindOfJson : Json → Except TrackerError FieldKind
  | .obj [("cascading", .obj members)] =>
    return .cascading (← Json.text (Table.get? "parent" members))
  | doc =>
    match doc.choice? with
    | some name => plainKind name
    | none => throw .json
where
  /-- The kind of a name that says it all. -/
  plainKind : String → Except TrackerError FieldKind
    | "plain" => .ok .plain
    | "named" => .ok .named
    | "named_list" => .ok .namedList
    | "select" => .ok .select
    | _ => .error .json

/-- A site's own field, a plain choice unless told otherwise. -/
def fieldOfJson (doc : Json) : Except TrackerError FieldMapping := do
  match ← doc.fields ["property", "field", "kind"] with
  | [property, field, kind] =>
    let property ← Json.text property
    let field ← Json.text field
    let kind ← match kind with
      | none => pure .select
      | some kind => kindOfJson kind
    return ⟨property, field, kind⟩
  | _ => throw .json

/-- The log settings of a record. -/
def logOfJson (doc : Json) : Except TrackerError LogSettings := do
  match ← doc.fields ["directives", "trace_file"] with
  | [directives, traceFile] => return ⟨← Json.text? directives, ← Json.text? traceFile⟩
  | _ => throw .json

/-- The fields of a list. -/
def fieldsOfJson : Json → Except TrackerError (List FieldMapping)
  | .arr items => items.mapM fieldOfJson
  | _ => throw .json

/-- The settings of a record; what it lacks is standard. -/
def ofJson (doc : Json) : Except TrackerError Settings := do
  match ← doc.fields ["url", "token", "username", "visibility_role", "custom_fields", "log"] with
  | [url, token, username, role, customFields, log] =>
    return {
      url := ← match url with
        | none => pure standard.url
        | some url => Json.text (some url)
      token := ← Json.text? token
      username := ← Json.text? username
      visibilityRole := ← Json.text? role
      customFields := ← match customFields with
        | none => pure []
        | some list => fieldsOfJson list
      log := ← match log with
        | none => pure standard.log
        | some log => logOfJson log
    }
  | _ => throw .json

end Settings

end IssueTracker
