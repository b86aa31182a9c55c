import IssueTracker.Url.Address
import IssueTracker.Url.Basic
import IssueTracker.Url.Idna
import IssueTracker.Url.Percent
/-!
# Hosts

The host of a URL as it is written after reading. In a special scheme it is a domain or a
numeric address; elsewhere it is any text without separators, or an address in brackets.
-/

namespace IssueTracker.Url

/-- The inside of text in brackets. -/
def bracketed? (cs : List Char) : Option (List Char) :=
  match cs with
  | '[' :: rest => if rest.getLast? = some ']' then some rest.dropLast else none
  | _ => none

/-- An address in brackets. -/
def bracketedHost (cs : List Char) : Except UrlError (List Char) :=
  match (bracketed? cs).bind ipv6? with
  | some pieces => .ok (renderIpv6 pieces)
  | none => .error .invalidIpv6

/-- The host of a special scheme. -/
def domainHost (cs : List Char) : Except UrlError (List Char) :=
  if ['['].isPrefixOf cs then bracketedHost cs
  else
    match (ofUtf8? (decodeBytes (utf8 cs))).bind domainToAscii? with
    | none => .error .invalidInternationalName
    | some [] => .error .emptyHost
    | some domain =>
      if endsInNumber domain then
        match ipv4? domain with
        | some address => .ok (renderIpv4 address)
        | none => .error .invalidIpv4
      else .ok domain

/-- Characters that no host may contain. -/
def forbiddenInHost (c : Char) : Bool :=
  c.val = 0 ||
    ['\t', '\n', '\r', ' ', '#', '/', ':', '<', '>', '?', '@', '[', '\\', ']', '^', '|'].contains c

/-- The host of another scheme. -/
def opaqueHost (cs : List Char) : Except UrlError (List Char) :=
  if ['['].isPrefixOf cs then bracketedHost cs
  else if cs.any forbiddenInHost then .error .invalidDomainCharacter
  else .ok (encode isControl cs)

/-- The characters of a host: up to a separator, or a colon outside brackets. -/
def spanHost (special inBrackets : Bool) : List Char → List Char × List Char
  | [] => ([], [])
  | c :: cs =>
    if (c = ':' && !inBrackets) || (c = '\\' && special) || c = '/' || c = '?' || c = '#' then
      ([], c :: cs)
    else
      let inBrackets := if c = '[' then true else if c = ']' then false else inBrackets
      let (host, rest) := spanHost special inBrackets cs
      (c :: host, rest)

/-- The host of a file URL: none, or a domain other than this machine's own name. A drive
letter in its place begins the path. -/
def fileHost (cs : List Char) : Except UrlError (Option (List Char) × List Char) :=
  let ends (c : Char) := c = '/' || c = '\\' || c = '?' || c = '#'
  let host := cs.takeWhile (!ends ·)
  let rest := cs.dropWhile (!ends ·)
  match host with
  | [] => .ok (none, rest)
  | [c, d] =>
    if c.isAlpha && (d = ':' || d = '|') then .ok (none, cs)
    else (domainHost host).map fun h => (some h, rest)
  | _ =>
    (domainHost host).map fun h => (if h = "localhost".toList then none else some h, rest)

end IssueTracker.Url
