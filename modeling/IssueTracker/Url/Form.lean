import IssueTracker.Url.Percent
import IssueTracker.Text.Split
/-!
# Form encoding

Parameters as a query: `name=value` pairs joined by `&`. A space becomes a plus sign, ASCII
letters, digits and `*-._` stay, and every other byte is percent-encoded.
-/

namespace IssueTracker.Url.Form

/-- Whether a byte stands for itself. -/
def isPlain (b : UInt8) : Bool :=
  let c := Char.ofNat b.toNat
  b < 0x80 && (c.isAlphanum || c = '*' || c = '-' || c = '.' || c = '_')

/-- One byte of a name or value. -/
def encodeByte (b : UInt8) : List Char :=
  if isPlain b then [Char.ofNat b.toNat]
  else if b = 0x20 then ['+']
  else percentByte b

/-- A name or value. -/
def encodeText (s : String) : List Char := (utf8 s.toList).flatMap encodeByte

/-- One parameter. -/
def encodePair (pair : String × String) : List Char :=
  encodeText pair.1 ++ '=' :: encodeText pair.2

/-- Parameters in order. -/
def encodePairs (pairs : List (String × String)) : List Char :=
  Text.joinWith ['&'] (pairs.map encodePair)

/-- The bytes of a piece of a query, with plus signs for spaces. -/
def bytesOf (cs : List Char) : List UInt8 :=
  decodeBytes (utf8 (cs.map fun c => if c = '+' then ' ' else c))

/-- A name or value as it was before encoding; what is not UTF-8 is lost. -/
def decodeText (cs : List Char) : String :=
  String.ofList ((ofUtf8? (bytesOf cs)).getD [])

/-- One parameter; without an equals sign the value is empty. -/
def decodePair (cs : List Char) : String × String :=
  (decodeText (cs.takeWhile (· ≠ '=')), decodeText ((cs.dropWhile (· ≠ '=')).drop 1))

/-- The parameters of a query. -/
def decodePairs (query : List Char) : List (String × String) :=
  ((Text.splitOn '&' query).filter (· ≠ [])).map decodePair

end IssueTracker.Url.Form
