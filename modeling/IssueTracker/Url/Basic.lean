/-!
# URLs

An absolute URL in its parts, each of them as it is written. Two URLs are equal when they are
written the same.
-/

namespace IssueTracker

/-- Why a text is no URL. -/
inductive UrlError where
  | relativeWithoutBase
  | baseCannotBeABase
  | emptyHost
  | invalidPort
  | invalidIpv4
  | invalidIpv6
  | invalidDomainCharacter
  | invalidInternationalName
  deriving DecidableEq, Repr

namespace UrlError

/-- The wording of an error. -/
def message : UrlError → String
  | relativeWithoutBase => "relative URL without a base"
  | baseCannotBeABase => "relative URL with a cannot-be-a-base base"
  | emptyHost => "empty host"
  | invalidPort => "invalid port number"
  | invalidIpv4 => "invalid IPv4 address"
  | invalidIpv6 => "invalid IPv6 address"
  | invalidDomainCharacter => "invalid domain character"
  | invalidInternationalName => "invalid international domain name"

end UrlError

/-- Whom a URL speaks to: a host, perhaps empty, with what is written around it. -/
structure Authority where
  username : List Char
  password : List Char
  host : List Char
  port : Option Nat
  deriving DecidableEq

/-- An absolute URL. Without an authority the path may start with any character. -/
structure Url where
  scheme : List Char
  authority : Option Authority
  path : List Char
  query : Option (List Char)
  fragment : Option (List Char)
  deriving DecidableEq

/-- The authority without user, password and port. -/
def Authority.ofHost (host : List Char) : Authority := ⟨[], [], host, none⟩

/-- The text of an authority. -/
def Authority.chars (a : Authority) : List Char :=
  let password := if a.password = [] then [] else ':' :: a.password
  let user := a.username ++ password
  (if user = [] then [] else user ++ ['@']) ++ a.host ++
    match a.port with
    | some port => ':' :: Nat.toDigits 10 port
    | none => []

namespace Url

/-- What comes before the path. A path that starts with two slashes would read as an
authority, so a dot is put before it. -/
def beforePath (u : Url) : List Char :=
  u.scheme ++ ':' ::
    match u.authority with
    | some a => '/' :: '/' :: a.chars
    | none => if ['/', '/'].isPrefixOf u.path then ['/', '.'] else []

/-- What comes after the path. -/
def afterPath (u : Url) : List Char :=
  (match u.query with
    | some q => '?' :: q
    | none => []) ++
  match u.fragment with
  | some f => '#' :: f
  | none => []

/-- The text of a URL. -/
def chars (u : Url) : List Char := u.beforePath ++ u.path ++ u.afterPath

/-- The text of a URL. -/
def text (u : Url) : String := String.ofList u.chars

/-- Whether relative references can be resolved against a URL. -/
def canBeABase (u : Url) : Bool := u.authority.isSome || ['/'].isPrefixOf u.path

/-! ## Schemes -/

/-- The schemes that the rules treat apart. -/
inductive SchemeKind where
  | special
  | file
  | other
  deriving DecidableEq

/-- The kind of a scheme. -/
def SchemeKind.of (scheme : List Char) : SchemeKind :=
  if ["http", "https", "ws", "wss", "ftp"].any (·.toList = scheme) then .special
  else if "file".toList = scheme then .file
  else .other

/-- Whether backslashes separate like slashes and the path is never empty. -/
def SchemeKind.isSpecial : SchemeKind → Bool
  | .other => false
  | _ => true

/-- The port that is left out for a scheme. -/
def defaultPort (scheme : List Char) : Option Nat :=
  if scheme = "http".toList ∨ scheme = "ws".toList then some 80
  else if scheme = "https".toList ∨ scheme = "wss".toList then some 443
  else if scheme = "ftp".toList then some 21
  else none

/-- The kind of a URL's scheme. -/
def kind (u : Url) : SchemeKind := .of u.scheme

end Url

end IssueTracker
