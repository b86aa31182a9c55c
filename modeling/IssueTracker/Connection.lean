import IssueTracker.Http.Message
import IssueTracker.Json.Printer
import IssueTracker.Settings
import IssueTracker.Text.Base64
/-!
# Connections

How requests reach a tracker over HTTP: where they go, how one signs in, and what the messages
carry. The network itself is a parameter.
-/

namespace IssueTracker

/-- How one signs in. -/
inductive Credentials where
  | bearer (token : String)
  | basic (username : String) (password : Option String)
  deriving DecidableEq

/-- The value of the header that carries credentials. -/
def Credentials.header : Credentials → String
  | bearer token => "Bearer " ++ token
  | basic username password =>
    let text := username ++ ":" ++ password.getD ""
    "Basic " ++ String.ofList (Text.Base64.encode (Url.utf8 text.toList))

/-- A way to reach a tracker. -/
structure Connection where
  /-- The address that the paths of requests are relative to. -/
  root : Url
  credentials : Option Credentials

namespace Connection

/-- Where the tracker's interface lies below its address. -/
def interfacePath : String := "rest/api/2/"

/-- What messages name as their sender. -/
def agent : String := "issue-bridge/0.3.1"

/-- The credentials that settings hold: a token, alone or as the password of a user. -/
def credentialsOf (s : Settings) : Option Credentials :=
  match s.username, s.token with
  | some username, some token => some (.basic username (some token))
  | none, some token => some (.bearer token)
  | _, none => none

/-- The connection that settings describe. -/
def ofSettings (s : Settings) : Except TrackerError Connection :=
  match s.baseUrl.bind (·.join interfacePath) with
  | .ok root => .ok ⟨root, credentialsOf s⟩
  | .error e => .error (.url e)

/-- Where a request goes. -/
def urlFor (c : Connection) (r : Request) : Except UrlError Url :=
  (c.root.join r.path).map (·.addParameters r.params)

/-- A part of a URL without its encoding. -/
def decodedPart (cs : List Char) : Option String :=
  (Url.ofUtf8? (Url.decodeBytes (Url.utf8 cs))).map String.ofList

/-- The credentials that stand in a URL. -/
def credentialsIn (u : Url) : Option Credentials := do
  let authority ← u.authority
  let username ← decodedPart authority.username
  let password := if authority.password = [] then none else decodedPart authority.password
  if username = "" ∧ password = none then none else some (.basic username password)

/-- The URL without a user and password. -/
def withoutUser (u : Url) : Url :=
  { u with authority := u.authority.map fun a => { a with username := [], password := [] } }

/-- The schemes that messages can be sent by. -/
def isReachable (u : Url) : Bool := ["http", "https"].any (·.toList = u.scheme)

/-- The message that carries a request. Credentials in the URL come before those of the
settings; a URL of another scheme or credentials that no header can hold make no message. -/
def message (c : Connection) (r : Request) : Except TrackerError Http.Message :=
  match c.urlFor r with
  | .error e => .error (.url e)
  | .ok url =>
    let inUrl := credentialsIn url
    let url := if inUrl.isSome then withoutUser url else url
    let credentials := (inUrl.toList ++ c.credentials.toList).map Credentials.header
    if !isReachable url then .error .http
    else if !credentials.all Http.isHeaderText then .error .http
    else
      .ok {
        method := r.method
        url
        headers := [("accept", "application/json"), ("user-agent", agent)] ++
          (if r.body.isSome then [("content-type", "application/json")] else []) ++
          credentials.map fun value => ("authorization", value)
        body := r.body.map Json.render
      }

/-- The answer to a request, given what the network brings back for its message. -/
def send (network : Http.Message → Option Http.Reply) (c : Connection) (r : Request) : Answer :=
  match c.message r with
  | .error e => .error e
  | .ok message =>
    match network message with
    | some reply => reply.answer
    | none => .error .http

end Connection

end IssueTracker
