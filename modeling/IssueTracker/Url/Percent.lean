/-!
# Percent-encoding

Characters outside a component's own set are written as the bytes of their UTF-8 form, each
as a percent sign and two uppercase hexadecimal digits. Decoding turns every such triple into
its byte and leaves other bytes alone.
-/

namespace IssueTracker.Url

/-- An uppercase hexadecimal digit. -/
def upperHex (n : Nat) : Char := (Nat.digitChar (n % 16)).toUpper

/-- A byte as a percent sign and two digits. -/
def percentByte (b : UInt8) : List Char :=
  ['%', upperHex (b.toNat / 16), upperHex b.toNat]

/-- A character as its percent-encoded bytes. -/
def percentChar (c : Char) : List Char := (String.utf8EncodeChar c).flatMap percentByte

/-- Whether a character is encoded in every component: controls, and all but ASCII. -/
def isControl (c : Char) : Bool := c.val < 0x20 || 0x7F ≤ c.val

/-- The characters encoded in a fragment. -/
def inFragmentSet (c : Char) : Bool := isControl c || [' ', '"', '<', '>', '`'].contains c

/-- The characters encoded in a query. -/
def inQuerySet (c : Char) : Bool := isControl c || [' ', '"', '#', '<', '>'].contains c

/-- The characters encoded in the query of a special scheme. -/
def inSpecialQuerySet (c : Char) : Bool := inQuerySet c || c = '\''

/-- The characters encoded in a path. -/
def inPathSet (c : Char) : Bool := inFragmentSet c || ['#', '?', '\x7b', '\x7d'].contains c

/-- The characters encoded in a user name or password. -/
def inUserinfoSet (c : Char) : Bool :=
  inPathSet c || ['/', ':', ';', '=', '@', '[', '\\', ']', '^', '|'].contains c

/-- A character, encoded if it is in the set. -/
def encodeChar (set : Char → Bool) (c : Char) : List Char :=
  if set c then percentChar c else [c]

/-- Text with the characters of the set encoded. -/
def encode (set : Char → Bool) (cs : List Char) : List Char := cs.flatMap (encodeChar set)

/-- The value of a hexadecimal digit of either case. -/
def hexValue? (b : UInt8) : Option Nat :=
  let n := b.toNat
  if 48 ≤ n ∧ n ≤ 57 then some (n - 48)
  else if 97 ≤ n ∧ n ≤ 102 then some (n - 87)
  else if 65 ≤ n ∧ n ≤ 70 then some (n - 55)
  else none

/-- Bytes with their percent-encoded triples decoded. -/
def decodeBytes : List UInt8 → List UInt8
  | b :: x :: y :: rest =>
    if b = 37 then
      match hexValue? x, hexValue? y with
      | some h, some l => UInt8.ofNat (h * 16 + l) :: decodeBytes rest
      | _, _ => b :: decodeBytes (x :: y :: rest)
    else b :: decodeBytes (x :: y :: rest)
  | bs => bs

/-- The bytes of a text. -/
def utf8 (cs : List Char) : List UInt8 := cs.flatMap String.utf8EncodeChar

/-- The text that bytes spell, if they are UTF-8. -/
def ofUtf8? (bytes : List UInt8) : Option (List Char) :=
  (String.fromUTF8? ⟨bytes.toArray⟩).map String.toList

end IssueTracker.Url
