import IssueTracker.Text.Split
/-!
# Addresses as hosts

Numeric hosts. A version 4 address has up to four parts in decimal, octal or hexadecimal, the
last of which fills the bytes that are left. A version 6 address has eight pieces, of which
one run of zeros may be left out, and the last two may be written as a version 4 address.
-/

namespace IssueTracker.Url

/-- The value of a digit in a base up to sixteen. -/
def digitIn (base : Nat) (c : Char) : Option Nat :=
  let value :=
    if c.isDigit then c.toNat - '0'.toNat
    else if 'a' ≤ c ∧ c ≤ 'f' then c.toNat - 'a'.toNat + 10
    else if 'A' ≤ c ∧ c ≤ 'F' then c.toNat - 'A'.toNat + 10
    else base
  if value < base then some value else none

/-- The value of digits in a base. -/
def numberIn (base : Nat) (cs : List Char) : Option Nat :=
  cs.foldlM (fun n c => (digitIn base c).map (n * base + ·)) 0

/-! ## Version 4 -/

/-- The number of one part. Nothing but a base mark counts as zero. -/
def ipv4Part? : List Char → Option Nat
  | [] => none
  | '0' :: 'x' :: rest => numberIn 16 rest
  | '0' :: 'X' :: rest => numberIn 16 rest
  | '0' :: c :: rest => numberIn 8 (c :: rest)
  | cs => numberIn 10 cs

/-- The parts of a domain, without an empty last one. -/
def dottedParts (domain : List Char) : List (List Char) :=
  let parts := Text.splitOn '.' domain
  if 1 < parts.length ∧ parts.getLast? = some [] then parts.dropLast else parts

/-- Whether the last part of a domain is a number, so that it must be an address. -/
def endsInNumber (domain : List Char) : Bool :=
  match (dottedParts domain).getLast? with
  | none => false
  | some last => (!last.isEmpty && last.all Char.isDigit) || (ipv4Part? last).isSome

/-- The parts but for the last, as the high bytes of an address. -/
def highBytes (parts : List Nat) : Nat :=
  parts.zipIdx.foldl (fun sum (n, i) => sum + n * Nat.pow 256 (3 - i)) 0

/-- The address of a domain that ends in a number. -/
def ipv4? (domain : List Char) : Option Nat := do
  let parts := dottedParts domain
  if 4 < parts.length then none
  else
    let numbers ← parts.mapM ipv4Part?
    let last ← numbers.getLast?
    let high := numbers.dropLast
    if last < Nat.pow 256 (4 - high.length) ∧ high.all (· < 256) then some (highBytes high + last)
    else none

/-- An address in four decimal parts. -/
def renderIpv4 (address : Nat) : List Char :=
  Text.joinWith ['.']
    ([3, 2, 1, 0].map fun i => Nat.toDigits 10 (address / Nat.pow 256 i % 256))

/-! ## Version 6 -/

/-- A part of a trailing version 4 address: at most 255, without leading zeros. -/
def strictByte? (cs : List Char) : Option Nat :=
  match cs with
  | [] => none
  | '0' :: _ :: _ => none
  | cs => (numberIn 10 cs).filter (· < 256)

/-- A trailing version 4 address, as two pieces. -/
def embeddedIpv4? (cs : List Char) : Option (List Nat) :=
  match (Text.splitOn '.' cs).mapM strictByte? with
  | some [a, b, c, d] => some [a * 256 + b, c * 256 + d]
  | _ => none

/-- The pieces of a run of colons-separated numbers; only the last may be an address. -/
def pieces? : List (List Char) → Option (List Nat)
  | [] => some []
  | [last] =>
    if last.contains '.' then embeddedIpv4? last
    else if last.isEmpty ∨ 4 < last.length then none
    else (numberIn 16 last).map ([·])
  | piece :: rest =>
    if piece.isEmpty ∨ 4 < piece.length then none
    else do
      let n ← numberIn 16 piece
      let ns ← pieces? rest
      return n :: ns

/-- The pieces on either side of the first double colon, if there is one. -/
def splitDoubleColon : List Char → Option (List Char × List Char)
  | ':' :: ':' :: rest => some ([], rest)
  | c :: cs => (splitDoubleColon cs).map fun (before, after) => (c :: before, after)
  | [] => none

/-- The pieces written in one side of an address; an empty side has none. -/
def side? (cs : List Char) : Option (List Nat) :=
  if cs.isEmpty then some [] else pieces? (Text.splitOn ':' cs)

/-- The eight pieces of an address. A double colon stands for at least one zero. -/
def ipv6? (cs : List Char) : Option (List Nat) :=
  match splitDoubleColon cs with
  | none => (side? cs).filter (·.length = 8)
  | some (before, after) => do
    if before.contains '.' then none
    else
      let high ← side? before
      let low ← side? after
      if high.length + low.length < 8 then
        some (high ++ List.replicate (8 - high.length - low.length) 0 ++ low)
      else none

/-- The length of the run of zeros ahead. -/
def zeroRun (pieces : List Nat) : Nat := (pieces.takeWhile (· = 0)).length

/-- The start and length of the longest run of zeros, the first of several. -/
def longestRun (pieces : List Nat) : Nat × Nat :=
  (List.range pieces.length).foldl (fun (best : Nat × Nat) i =>
    let run := zeroRun (pieces.drop i)
    if best.2 < run then (i, run) else best) (0, 0)

/-- Pieces in hexadecimal between colons. -/
def renderPieces (pieces : List Nat) : List Char :=
  Text.joinWith [':'] (pieces.map (Nat.toDigits 16))

/-- An address in brackets, with its longest run of two or more zeros left out. -/
def renderIpv6 (pieces : List Nat) : List Char :=
  let (start, run) := longestRun pieces
  let body :=
    if run < 2 then renderPieces pieces
    else renderPieces (pieces.take start) ++ [':', ':'] ++ renderPieces (pieces.drop (start + run))
  '[' :: body ++ [']']

end IssueTracker.Url
