import IssueTracker.Url.Form
import IssueTracker.Url.Host
import IssueTracker.Url.Path
/-!
# Reading URLs

Reading an absolute URL, or a reference against a base, and changing single parts. Blanks and
controls around the text and tabs and line ends inside it do not count.
-/

namespace IssueTracker.Url

/-- Whether a character is skipped wherever it stands. -/
def isIgnored (c : Char) : Bool := c = '\t' || c = '\n' || c = '\r'

/-- The text without what does not count. -/
def clean (cs : List Char) : List Char :=
  let outer (c : Char) : Bool := c.val ≤ 0x20
  (((cs.dropWhile outer).reverse.dropWhile outer).reverse).filter (!isIgnored ·)

/-! ## Scheme -/

/-- Whether a character may stand in a scheme after its first letter. -/
def isSchemeChar (c : Char) : Bool := c.isAlphanum || c = '+' || c = '-' || c = '.'

/-- The scheme ahead, in lower case, and what follows its colon. -/
def splitScheme (cs : List Char) : Option (List Char × List Char) :=
  match cs with
  | c :: _ =>
    if c.isAlpha then
      match cs.dropWhile isSchemeChar with
      | ':' :: rest => some ((cs.takeWhile isSchemeChar).map Char.toLower, rest)
      | _ => none
    else none
  | [] => none

/-! ## Query and fragment -/

/-- The set of characters encoded in the query of a scheme. -/
def querySet (kind : SchemeKind) : Char → Bool :=
  if kind.isSpecial then inSpecialQuerySet else inQuerySet

/-- Adds the query and fragment that are left, replacing those there. -/
def withRest (u : Url) (rest : List Char) : Url :=
  match rest with
  | '?' :: rest =>
    let query := encode (querySet u.kind) (rest.takeWhile (· ≠ '#'))
    match rest.dropWhile (· ≠ '#') with
    | '#' :: fragment =>
      { u with query := some query, fragment := some (encode inFragmentSet fragment) }
    | _ => { u with query := some query, fragment := none }
  | '#' :: fragment => { u with query := none, fragment := some (encode inFragmentSet fragment) }
  | _ => { u with query := none, fragment := none }

/-! ## Authority -/

/-- A port and what follows it. Without digits, and for the scheme's own port, there is none. -/
def parsePort (scheme : List Char) (value : Nat) (any : Bool) :
    List Char → Except UrlError (Option Nat × List Char)
  | [] => .ok (if any && defaultPort scheme != some value then some value else none, [])
  | c :: cs =>
    if c.isDigit then
      let value := value * 10 + (c.toNat - '0'.toNat)
      if 65535 < value then .error .invalidPort else parsePort scheme value true cs
    else if c = '/' || c = '\\' || c = '?' || c = '#' then
      .ok (if any && defaultPort scheme != some value then some value else none, c :: cs)
    else .error .invalidPort

/-- What is left of the last `@` before a separator, and what follows it. -/
def splitUserinfo (special : Bool) (cs : List Char) : Option (List Char × List Char) :=
  let ends (c : Char) := c = '/' || c = '?' || c = '#' || (c = '\\' && special)
  let before := cs.takeWhile (!ends ·)
  match before.reverse.dropWhile (· ≠ '@') with
  | '@' :: user => some (user.reverse, cs.drop (user.length + 1))
  | _ => none

/-- The user name and password in front of an `@`. -/
def parseUserinfo (user : List Char) : List Char × List Char :=
  (encode inUserinfoSet (user.takeWhile (· ≠ ':')),
   encode inUserinfoSet ((user.dropWhile (· ≠ ':')).drop 1))

/-- The host and port of an authority, and what follows them. -/
def parseHostAndPort (scheme : List Char) (cs : List Char) :
    Except UrlError (List Char × Option Nat × List Char) := do
  let special := (SchemeKind.of scheme).isSpecial
  let (text, rest) := spanHost special false cs
  if special ∧ text = [] then throw .emptyHost
  let host ← if special then domainHost text else opaqueHost text
  match rest with
  | ':' :: rest =>
    if host = [] then throw .emptyHost
    let (port, rest) ← parsePort scheme 0 false rest
    return (host, port, rest)
  | _ => return (host, none, rest)

/-- A URL after the two slashes of its authority. -/
def afterSlashes (scheme : List Char) (cs : List Char) : Except UrlError Url := do
  let kind := SchemeKind.of scheme
  let special := kind.isSpecial
  let (user, rest) := (splitUserinfo special cs).getD ([], cs)
  let ends (c : Char) := c = '/' || c = '?' || c = '#' || (c = '\\' && special)
  if (splitUserinfo special cs).isSome ∧ user = [] ∧ rest.head?.any ends then throw .emptyHost
  let (username, password) := parseUserinfo user
  let (host, port, rest) ← parseHostAndPort scheme rest
  if host = [] ∧ (username ≠ [] ∨ password ≠ []) then throw .emptyHost
  let p := parsePathStart ⟨kind, true⟩ true rest
  return withRest ⟨scheme, some ⟨username, password, host, port⟩, p.path, none, none⟩ p.rest

/-! ## File URLs -/

/-- Whether text starts with a drive letter and then ends or goes on with a separator. -/
def startsWithDriveLetter : List Char → Bool
  | c :: d :: rest =>
    c.isAlpha && (d = ':' || d = '|') &&
      rest.head?.all fun e => e = '/' || e = '\\' || e = '?' || e = '#'
  | _ => false

/-- A file URL without host, with a path read on top of what is there. -/
def filePath (base cs : List Char) : Url :=
  let p := parsePath ⟨.file, true⟩ base false cs
  withRest ⟨"file".toList, some (.ofHost []), p.path, none, none⟩ p.rest

/-- A file URL after two slashes. -/
def fileAfterSlashes (cs : List Char) : Except UrlError Url := do
  let (host, rest) ← fileHost cs
  let p :=
    match host with
    | some _ => parsePathStart ⟨.file, true⟩ true rest
    | none => parsePath ⟨.file, true⟩ ['/'] false rest
  let host := if p.hostStands then host.getD [] else []
  return withRest ⟨"file".toList, some (.ofHost host), p.path, none, none⟩ p.rest

/-- The first segment of a path. -/
def firstSegment (path : List Char) : List Char := (path.drop 1).takeWhile (· ≠ '/')

/-- A file URL after its scheme, or a reference against one. -/
def parseFile (base : Option Url) (cs : List Char) : Except UrlError Url :=
  match cs with
  | c :: rest =>
    if c = '/' ∨ c = '\\' then
      match rest with
      | d :: rest' =>
        if d = '/' ∨ d = '\\' then fileAfterSlashes rest' else .ok (oneSlash rest)
      | [] => .ok (oneSlash rest)
    else
      match base with
      | none => .ok (filePath ['/'] cs)
      | some base =>
        if c = '?' then .ok (withRest base cs)
        else if c = '#' then .ok { base with fragment := some (encode inFragmentSet rest) }
        else if startsWithDriveLetter cs then .ok (filePath ['/'] cs)
        else
          let p := parsePath ⟨.file, true⟩ (popSegment .file base.path.reverse).reverse true cs
          .ok (withRest { base with path := p.path } p.rest)
  | [] =>
    match base with
    | none => .ok (filePath ['/'] [])
    | some base => .ok { base with fragment := none }
where
  /-- One slash: the path starts anew, on the drive or host of the base. -/
  oneSlash (rest : List Char) : Url :=
    match base with
    | none => filePath [] cs
    | some base =>
      if startsWithDriveLetter rest then filePath [] cs
      else if isNormalDriveLetter (firstSegment base.path) then
        filePath ('/' :: firstSegment base.path) cs
      else
        let p := parsePath ⟨.file, true⟩ [] false cs
        withRest { base with path := p.path } p.rest

/-! ## Absolute and relative -/

/-- A URL of another scheme, after its colon. -/
def parseOther (scheme cs : List Char) : Except UrlError Url :=
  match cs with
  | '/' :: '/' :: rest => afterSlashes scheme rest
  | '/' :: rest =>
    let p := parsePath ⟨.other, true⟩ ['/'] false rest
    .ok (withRest ⟨scheme, none, p.path, none, none⟩ p.rest)
  | _ =>
    let (path, rest) := parseOpaquePath true cs
    .ok (withRest ⟨scheme, none, path, none, none⟩ rest)

/-- A reference against a base that is no file. -/
def parseRelative (base : Url) (cs : List Char) : Except UrlError Url :=
  let slash (c : Char) : Bool := c = '/' || c = '\\'
  match cs with
  | [] => .ok { base with fragment := none }
  | '?' :: _ => .ok (withRest base cs)
  | '#' :: rest => .ok { base with fragment := some (encode inFragmentSet rest) }
  | c :: rest =>
    if slash c then
      if rest.head?.any slash then
        match cs with
        | '/' :: '/' :: after => afterSlashes base.scheme after
        | _ => afterSlashes base.scheme (cs.dropWhile slash)
      else
        let p := parsePath ⟨base.kind, true⟩ ['/'] true rest
        .ok (withRest { base with path := p.path } p.rest)
    else
      let kept := (popSegment base.kind base.path.reverse).reverse
      let kept := if kept = [] then ['/'] else kept
      let p := parsePath ⟨base.kind, true⟩ kept true cs
      .ok (withRest { base with path := p.path } p.rest)

/-- A URL after its scheme. A special scheme without two slashes is relative to a base of the
same scheme. -/
def parseAfterScheme (base : Option Url) (scheme rest : List Char) : Except UrlError Url :=
  let slash (c : Char) : Bool := c = '/' || c = '\\'
  match SchemeKind.of scheme with
  | .file => parseFile (base.filter fun b => decide (b.scheme = scheme)) rest
  | .special =>
    match base with
    | some b =>
      if (rest.takeWhile slash).length < 2 ∧ b.scheme = scheme then parseRelative b rest
      else afterSlashes scheme (rest.dropWhile slash)
    | none => afterSlashes scheme (rest.dropWhile slash)
  | .other => parseOther scheme rest

/-- A reference, resolved against a base if there is one. -/
def resolve (base : Option Url) (text : String) : Except UrlError Url :=
  let cs := clean text.toList
  match splitScheme cs with
  | some (scheme, rest) => parseAfterScheme base scheme rest
  | none =>
    match base with
    | none => .error .relativeWithoutBase
    | some base =>
      match cs with
      | '#' :: rest => .ok { base with fragment := some (encode inFragmentSet rest) }
      | _ =>
        if !base.canBeABase then .error .baseCannotBeABase
        else if base.kind = .file then parseFile (some base) cs
        else parseRelative base cs

/-- The absolute URL that a text spells. -/
def parse (text : String) : Except UrlError Url := resolve none text

/-- A reference resolved against this URL. -/
def join (base : Url) (reference : String) : Except UrlError Url := resolve (some base) reference

/-! ## Changing parts -/

/-- The URL with another path, encoded as needed. -/
def setPath (u : Url) (path : List Char) : Url :=
  if u.canBeABase then
    { u with path := (parsePathStart ⟨u.kind, false⟩ true path).path }
  else
    match path with
    | '/' :: rest => { u with path := '%' :: '2' :: 'F' :: (parseOpaquePath false rest).1 }
    | _ => { u with path := (parseOpaquePath false path).1 }

/-- The URL with another query, encoded as needed. -/
def setQuery (u : Url) (query : List Char) : Url :=
  { u with query := some (encode (querySet u.kind) (query.filter (!isIgnored ·))) }

/-- The URL with parameters added to its query. -/
def addParameters (u : Url) (parameters : List (String × String)) : Url :=
  if parameters.isEmpty then u
  else
    let old := u.query.getD []
    let separator := if old = [] then [] else ['&']
    { u with query := some (old ++ separator ++ Form.encodePairs parameters) }

end IssueTracker.Url
