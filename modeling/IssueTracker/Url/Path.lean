import IssueTracker.Url.Basic
import IssueTracker.Url.Percent
/-!
# Paths of URLs

Reading a path segment by segment. A dot segment is dropped, a double dot segment drops the
segment before it, and in a file URL a drive letter at the start is kept. The path read so
far is a stack of characters, last first.
-/

namespace IssueTracker.Url

/-- How a path is read: after the text of which scheme, and whether `?` and `#` end it. -/
structure PathRules where
  kind : SchemeKind
  delimited : Bool

/-- Whether a character separates segments. -/
def PathRules.separates (r : PathRules) (c : Char) : Bool :=
  c = '/' || (c = '\\' && r.kind.isSpecial)

/-- Whether a character ends the path. -/
def PathRules.ends (r : PathRules) (c : Char) : Bool := r.delimited && (c = '?' || c = '#')

/-- A path as far as it is read, and whether a host before it still stands. -/
structure PathState where
  path : List Char
  hostStands : Bool

/-- A letter and a colon or bar. -/
def isDriveLetter : List Char → Bool
  | [c, d] => c.isAlpha && (d = ':' || d = '|')
  | _ => false

/-- A letter and a colon. -/
def isNormalDriveLetter : List Char → Bool
  | [c, ':'] => c.isAlpha
  | _ => false

/-- A written dot, encoded or not. -/
def dots : List Char → Option Nat
  | [] => some 0
  | '.' :: rest => (dots rest).map (· + 1)
  | '%' :: '2' :: 'e' :: rest => (dots rest).map (· + 1)
  | '%' :: '2' :: 'E' :: rest => (dots rest).map (· + 1)
  | _ => none

/-- A stack without what is above its last slash, which stays. -/
def toLastSlash (stack : List Char) : List Char := stack.dropWhile (· ≠ '/')

/-- The stack without its last slash, if a segment is before it that may be dropped: the root
slash stays, and so does one after a drive letter. -/
def dropLastSlash : List Char → List Char
  | '/' :: before =>
    if before.contains '/' && !isDriveLetter (before.takeWhile (· ≠ '/')).reverse then before
    else '/' :: before
  | stack => stack

/-- The stack without its last segment, but for a drive letter in a file URL. -/
def popSegment (kind : SchemeKind) (stack : List Char) : List Char :=
  if kind = .file ∧ isNormalDriveLetter (stack.takeWhile (· ≠ '/')).reverse then stack
  else toLastSlash stack

/-- The stack with a slash on top. -/
def withSlash : List Char → List Char
  | '/' :: rest => '/' :: rest
  | stack => '/' :: stack

/-- A finished segment added to the stack; `slash` says whether a separator follows. -/
def endSegment (r : PathRules) (slash : Bool) (st : PathState) (segment : List Char) : PathState :=
  match dots segment with
  | some 2 =>
    let path := popSegment r.kind (dropLastSlash st.path)
    { st with path := if slash then withSlash path else path }
  | some 1 => { st with path := withSlash st.path }
  | _ =>
    let close (path : List Char) := if slash then '/' :: path else path
    match r.kind, st.path, segment with
    | .file, ['/'], [c, d] =>
      if isDriveLetter [c, d] then ⟨close [':', c, '/'], false⟩
      else { st with path := close (d :: c :: st.path) }
    | _, _, _ => { st with path := close (segment.reverse ++ st.path) }

/-- Opens a segment: after a lone drive letter a slash is missing. -/
def openSegment (r : PathRules) (stack : List Char) : List Char :=
  match r.kind, stack with
  | .file, [':', c, '/'] => if c.isAlpha then '/' :: stack else stack
  | _, _ => stack

/-- Reads segments; `segment` is the one under way, last character first. Gives the path and
what is left from its end. -/
def segments (r : PathRules) (st : PathState) (segment : List Char) :
    List Char → PathState × List Char
  | [] => (endSegment r false st segment.reverse, [])
  | c :: cs =>
    if r.separates c then segments r (endSegment r true st segment.reverse) [] cs
    else if r.ends c then (endSegment r false st segment.reverse, c :: cs)
    else
      segments r { st with path := openSegment r st.path }
        ((encodeChar inPathSet c).reverse ++ segment) cs

/-- The path on a stack. Leading slashes of a file URL become one. -/
def finishPath (kind : SchemeKind) (stack : List Char) : List Char :=
  match kind with
  | .file => '/' :: stack.reverse.dropWhile (· = '/')
  | _ => stack.reverse

/-- A path read from some characters. -/
structure ParsedPath where
  path : List Char
  hostStands : Bool
  rest : List Char

/-- Reads a path on top of what is there. -/
def parsePath (r : PathRules) (base : List Char) (hostStands : Bool) (cs : List Char) :
    ParsedPath :=
  let (st, rest) := segments r ⟨base.reverse, hostStands⟩ [] cs
  ⟨finishPath r.kind st.path, st.hostStands, rest⟩

/-- Reads the path after an authority. That of a special scheme starts with a slash, written
or not. -/
def parsePathStart (r : PathRules) (hostStands : Bool) (cs : List Char) : ParsedPath :=
  if r.kind.isSpecial then
    match cs with
    | c :: rest =>
      if c = '/' ∨ c = '\\' then parsePath r ['/'] hostStands rest
      else parsePath r ['/'] hostStands cs
    | [] => parsePath r ['/'] hostStands []
  else
    match cs with
    | [] => parsePath r [] hostStands []
    | c :: _ =>
      if r.delimited && (c = '?' || c = '#') then ⟨[], hostStands, cs⟩
      else if c = '/' then parsePath r [] hostStands cs
      else parsePath r ['/'] hostStands cs

/-- Reads the path of a URL that cannot be a base. -/
def parseOpaquePath (delimited : Bool) : List Char → List Char × List Char
  | [] => ([], [])
  | c :: cs =>
    if delimited && (c = '?' || c = '#') then ([], c :: cs)
    else
      let (path, rest) := parseOpaquePath delimited cs
      (encodeChar isControl c ++ path, rest)

end IssueTracker.Url
