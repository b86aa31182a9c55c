import IssueTracker.Text.Split
/-!
# Sets of characters

Sets of code points written as ranges in hexadecimal, such as `7f-a0 ad`, and what stands for
code points written in entries such as `df:73:73`.
-/

namespace IssueTracker.Text

/-- The value of a lowercase hexadecimal number. -/
def hexValue (cs : List Char) : Nat :=
  cs.foldl (fun n c =>
    n * 16 + (if c.isDigit then c.toNat - '0'.toNat else c.toNat - 'a'.toNat + 10)) 0

/-- The ends of a written range. -/
def readRange (cs : List Char) : Nat × Nat :=
  match splitOn '-' cs with
  | [first, last] => (hexValue first, hexValue last)
  | _ => (hexValue cs, hexValue cs)

/-- The ranges on written lines. -/
def readRanges (lines : List String) : List (Nat × Nat) :=
  lines.flatMap fun line => (splitOn ' ' line.toList).map readRange

/-- Whether a character is in one of some ascending ranges. -/
def inRanges (c : Char) : List (Nat × Nat) → Bool
  | [] => false
  | (first, last) :: rest =>
    if c.toNat < first then false else c.toNat ≤ last || inRanges c rest

/-! ## Entries -/

/-- The hexadecimal numbers between colons, for each entry of written lines. -/
def readEntries (lines : List String) : List (List Nat) :=
  lines.flatMap fun line =>
    (splitOn ' ' line.toList).map fun entry => (splitOn ':' entry).map hexValue

/-- What stands for a code point by an entry of its own. -/
def expansionIn? (code : Nat) : List Nat → Option (List Nat)
  | c :: codes => if c = code then some codes else none
  | [] => none

/-- What stands for a code point by an entry for a run of them: the first, the last, the step
between them, and what stands for the first. -/
def targetIn? (code : Nat) : List Nat → Option Nat
  | [first, last, step, target] =>
    if first ≤ code && code ≤ last && (code - first) % step = 0 then
      some (target + (code - first))
    else none
  | _ => none

/-- The value of a code point by an entry that gives all from a first to a last one value. -/
def valueIn? (code : Nat) : List Nat → Option Nat
  | [first, last, value] => if first ≤ code && code ≤ last then some value else none
  | _ => none

end IssueTracker.Text
