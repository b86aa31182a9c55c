import IssueTracker.Http.Message
import IssueTracker.Text.Ascii
import IssueTracker.Text.Split
import IssueTracker.Url.Percent
/-!
# Messages on the wire

The bytes of a message, and the reply that bytes spell. A body is as long as its header says,
comes in chunks with their lengths in front, or goes on to the end.
-/

namespace IssueTracker.Http

/-! ## Sending -/

/-- What ends a line. -/
def lineEnd : String := "\x0d\n"

namespace Message

/-- The path and query that a message asks for. -/
def target (m : Message) : String :=
  String.ofList (m.url.path ++
    match m.url.query with
    | some query => '?' :: query
    | none => [])

/-- The host, and the port if it is not the usual one. -/
def host (m : Message) : String :=
  match m.url.authority with
  | some a => String.ofList (Authority.chars { a with username := [], password := [] })
  | none => ""

/-- The lines before the body. The connection is not used again. -/
def headLines (m : Message) : List String :=
  let length := match m.body with
    | some body => [("content-length", toString body.utf8ByteSize)]
    | none => []
  let headers := ("host", m.host) :: m.headers ++ length ++ [("connection", "close")]
  (m.method.name ++ " " ++ m.target ++ " HTTP/1.1") ::
    headers.map fun (name, value) => name ++ ": " ++ value

/-- The text of a message. -/
def text (m : Message) : String :=
  String.join (m.headLines.map (· ++ lineEnd)) ++ lineEnd ++ m.body.getD ""

end Message

/-! ## Receiving -/

/-- The bytes up to a line end and those behind it. -/
def splitLine : List UInt8 → Option (List UInt8 × List UInt8)
  | 13 :: 10 :: rest => some ([], rest)
  | b :: rest => (splitLine rest).map fun (line, rest) => (b :: line, rest)
  | [] => none

/-- The lines up to an empty one and the bytes behind it, with as many steps as allowed. -/
def splitHead : Nat → List UInt8 → Option (List String × List UInt8)
  | 0, _ => none
  | steps + 1, bytes =>
    match splitLine bytes with
    | none => none
    | some ([], rest) => some ([], rest)
    | some (line, rest) =>
      (splitHead steps rest).map fun (lines, rest) =>
        (String.ofList (line.map fun b => Char.ofNat b.toNat) :: lines, rest)

/-- The status on the first line of a reply. -/
def statusOf (line : String) : Option Nat :=
  match Text.split ' ' line with
  | version :: status :: _ => if version.startsWith "HTTP/" then status.toNat? else none
  | _ => none

/-- The value of a header. -/
def headerOf (name : String) (lines : List String) : Option String :=
  lines.findSome? fun line =>
    let cs := line.toList
    if Text.sameLetters (String.ofList (cs.takeWhile (· ≠ ':'))) name then
      some (Text.trim (String.ofList ((cs.dropWhile (· ≠ ':')).drop 1)))
    else none

/-- The length on the line before a chunk. -/
def chunkLength (line : List UInt8) : Option Nat :=
  match line.takeWhile fun b => (Url.hexValue? b).isSome with
  | [] => none
  | digits => some (digits.foldl (fun n b => n * 16 + (Url.hexValue? b).getD 0) 0)

/-- A body that comes in chunks, with as many steps as allowed. -/
def chunks : Nat → List UInt8 → Option (List UInt8)
  | 0, _ => none
  | steps + 1, bytes => do
    let (line, rest) ← splitLine bytes
    let length ← chunkLength line
    if length = 0 then some []
    else if rest.length < length then none
    else return rest.take length ++ (← chunks steps (rest.drop (length + 2)))

/-- The body of a reply with these headers. -/
def bodyOf (headers : List String) (bytes : List UInt8) : Option (List UInt8) :=
  if (headerOf "transfer-encoding" headers).any (Text.sameLetters "chunked") then
    chunks (bytes.length + 1) bytes
  else
    match headerOf "content-length" headers with
    | none => some bytes
    | some length => do
      let length ← length.toNat?
      if bytes.length < length then none else some (bytes.take length)

/-- The reply that bytes spell. -/
def Reply.ofBytes? (bytes : List UInt8) : Option Reply := do
  let (lines, rest) ← splitHead (bytes.length + 1) bytes
  match lines with
  | [] => none
  | first :: headers =>
    let status ← statusOf first
    let body ← bodyOf headers rest
    let text ← Url.ofUtf8? body
    return ⟨status, String.ofList text⟩

end IssueTracker.Http
