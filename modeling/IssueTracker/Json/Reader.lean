import IssueTracker.Json.Basic
/-!
# Reading documents

A strict reader: one document, blanks around it and nothing else. At most 127 arrays and
objects may be nested. Of several members with one key the last wins. Every function takes
the characters ahead and gives a value with those that remain.
-/

namespace IssueTracker.Json

namespace Reader

/-- The four blanks of the format. -/
def isBlank (c : Char) : Bool := c = ' ' || c = '\n' || c = '\t' || c = '\r'

/-- Skips blanks. -/
def skip (cs : List Char) : List Char := cs.dropWhile isBlank

/-- Reads fixed text. -/
def literal : List Char → List Char → Option (List Char)
  | [], cs => some cs
  | l :: ls, c :: cs => if l = c then literal ls cs else none
  | _ :: _, [] => none

/-! ## Numbers -/

/-- The value of a decimal digit. -/
def digit? (c : Char) : Option Nat := if c.isDigit then some (c.toNat - '0'.toNat) else none

/-- Appends digits to a significand while it fits 64 bits. Gives the significand, the number
of digits taken and the rest, which starts with a digit when the next one did not fit. -/
def significand (acc taken : Nat) : List Char → Nat × Nat × List Char
  | [] => (acc, taken, [])
  | c :: cs =>
    match digit? c with
    | none => (acc, taken, c :: cs)
    | some d =>
      if acc * 10 + d ≤ Number.maxUnsigned then significand (acc * 10 + d) (taken + 1) cs
      else (acc, taken, c :: cs)

/-- The digits ahead, as a number without bound, and their count. -/
def digits (acc taken : Nat) : List Char → Nat × Nat × List Char
  | [] => (acc, taken, [])
  | c :: cs =>
    match digit? c with
    | none => (acc, taken, c :: cs)
    | some d => digits (acc * 10 + d) (taken + 1) cs

/-- A finished float. -/
def finish (negative : Bool) (sig : Nat) (exponent : Int) (rest : List Char) :
    Option (Json × List Char) :=
  (Number.float? negative sig exponent).map fun x => (.num (.float x), rest)

/-- The exponents that the format can express. -/
def maxExponent : Nat := Nat.pow 2 31 - 1

/-- An exponent after its letter. One that does not fit 32 bits makes the number zero, or is
refused if the significand is not zero and the exponent is positive. -/
def exponent (negative : Bool) (sig : Nat) (start : Int) (cs : List Char) :
    Option (Json × List Char) :=
  let (positive, cs) := match cs with
    | '+' :: rest => (true, rest)
    | '-' :: rest => (false, rest)
    | _ => (true, cs)
  match digits 0 0 cs with
  | (_, 0, _) => none
  | (e, _, rest) =>
    if maxExponent < e then
      if sig ≠ 0 ∧ positive then none else finish negative 0 0 rest
    else finish negative sig (if positive then start + e else start - e) rest

/-- The end of a float: an exponent or nothing. -/
def floatTail (negative : Bool) (sig : Nat) (start : Int) : List Char → Option (Json × List Char)
  | 'e' :: rest => exponent negative sig start rest
  | 'E' :: rest => exponent negative sig start rest
  | rest => finish negative sig start rest

/-- A fraction after its point. Digits that no longer fit the significand are dropped. -/
def fraction (negative : Bool) (sig : Nat) (start : Int) (cs : List Char) :
    Option (Json × List Char) :=
  match significand sig 0 cs with
  | (sig, taken, rest) =>
    match rest with
    | c :: _ =>
      if c.isDigit then floatTail negative sig (start - taken) (rest.dropWhile Char.isDigit)
      else if taken = 0 then none else floatTail negative sig (start - taken) rest
    | [] => if taken = 0 then none else floatTail negative sig (start - taken) rest

/-- The text after an integer part that fits 64 bits: an integer if nothing follows and it
fits its sign, otherwise a float. -/
def integerTail (negative : Bool) (sig : Nat) : List Char → Option (Json × List Char)
  | '.' :: rest => fraction negative sig 0 rest
  | 'e' :: rest => exponent negative sig 0 rest
  | 'E' :: rest => exponent negative sig 0 rest
  | rest =>
    if negative then
      if 0 < sig ∧ sig ≤ Number.maxNegative then some (.num (.int (-sig)), rest)
      else some (.num (.float (Binary64.ofNat sig).neg), rest)
    else some (.num (.int sig), rest)

/-- The text after an integer part with more digits than fit: each digit left counts as a
power of ten. -/
def longIntegerTail (negative : Bool) (sig : Nat) (cs : List Char) : Option (Json × List Char) :=
  let extra := (cs.takeWhile Char.isDigit).length
  match cs.dropWhile Char.isDigit with
  | '.' :: rest => fraction negative sig extra rest
  | rest => floatTail negative sig extra rest

/-- A number after its sign. A leading zero stands alone. -/
def unsigned (negative : Bool) : List Char → Option (Json × List Char)
  | '0' :: rest =>
    match rest with
    | c :: _ => if c.isDigit then none else integerTail negative 0 rest
    | [] => integerTail negative 0 rest
  | cs =>
    match significand 0 0 cs with
    | (_, 0, _) => none
    | (sig, _, rest) =>
      match rest with
      | c :: _ =>
        if c.isDigit then longIntegerTail negative sig rest else integerTail negative sig rest
      | [] => integerTail negative sig rest

/-- A number. -/
def number : List Char → Option (Json × List Char)
  | '-' :: rest => unsigned true rest
  | cs => unsigned false cs

/-! ## Strings -/

/-- The value of a hexadecimal digit. -/
def hex? (c : Char) : Option Nat :=
  if c.isDigit then some (c.toNat - '0'.toNat)
  else if 'a' ≤ c ∧ c ≤ 'f' then some (c.toNat - 'a'.toNat + 10)
  else if 'A' ≤ c ∧ c ≤ 'F' then some (c.toNat - 'A'.toNat + 10)
  else none

/-- Four hexadecimal digits. -/
def hex4 : List Char → Option (Nat × List Char)
  | a :: b :: c :: d :: rest => do
    let a ← hex? a
    let b ← hex? b
    let c ← hex? c
    let d ← hex? d
    return (((a * 16 + b) * 16 + c) * 16 + d, rest)
  | _ => none

/-- The character of an escape after its `u`; a high surrogate needs a low one behind it. -/
def unicodeEscape (cs : List Char) : Option (Char × List Char) := do
  let (n, rest) ← hex4 cs
  if 0xDC00 ≤ n ∧ n ≤ 0xDFFF then none
  else if 0xD800 ≤ n ∧ n ≤ 0xDBFF then
    match rest with
    | '\\' :: 'u' :: rest =>
      let (m, rest) ← hex4 rest
      if 0xDC00 ≤ m ∧ m ≤ 0xDFFF then
        some (Char.ofNat (0x10000 + (n - 0xD800) * 0x400 + (m - 0xDC00)), rest)
      else none
    | _ => none
  else some (Char.ofNat n, rest)

/-- One character of a string, escaped or not. -/
def stringChar : List Char → Option (Char × List Char)
  | '\\' :: c :: rest =>
    match c with
    | '"' => some ('"', rest)
    | '\\' => some ('\\', rest)
    | '/' => some ('/', rest)
    | 'b' => some ('\x08', rest)
    | 'f' => some ('\x0c', rest)
    | 'n' => some ('\n', rest)
    | 'r' => some ('\r', rest)
    | 't' => some ('\t', rest)
    | 'u' => unicodeEscape rest
    | _ => none
  | '\\' :: [] => none
  | c :: rest => if c.val < 32 then none else some (c, rest)
  | [] => none

/-- The characters up to the closing quote, last first, with as many steps as allowed. -/
def stringTail : Nat → List Char → List Char → Option (List Char × List Char)
  | 0, _, _ => none
  | _ + 1, acc, '"' :: rest => some (acc, rest)
  | steps + 1, acc, cs =>
    match stringChar cs with
    | some (c, rest) => stringTail steps (c :: acc) rest
    | none => none

/-- A string after its opening quote. -/
def string (cs : List Char) : Option (String × List Char) :=
  (stringTail (cs.length + 1) [] cs).map fun (acc, rest) => (String.ofList acc.reverse, rest)

/-! ## Values -/

/-- How one value is read. -/
abbrev Step := List Char → Option (Json × List Char)

/-- Items up to the closing bracket, last first, with as many steps as allowed. -/
def itemsTail (value : Step) : Nat → List Json → List Char → Option (List Json × List Char)
  | 0, _, _ => none
  | steps + 1, acc, cs =>
    match value cs with
    | none => none
    | some (item, rest) =>
      match skip rest with
      | ',' :: rest => itemsTail value steps (item :: acc) (skip rest)
      | ']' :: rest => some (item :: acc, rest)
      | _ => none

/-- An array after its opening bracket. -/
def array (value : Step) (cs : List Char) : Option (Json × List Char) :=
  match skip cs with
  | ']' :: rest => some (.arr [], rest)
  | cs => (itemsTail value (cs.length + 1) [] cs).map fun (acc, rest) => (.arr acc.reverse, rest)

/-- Members up to the closing brace, last first, with as many steps as allowed. -/
def membersTail (value : Step) :
    Nat → List (String × Json) → List Char → Option (List (String × Json) × List Char)
  | 0, _, _ => none
  | steps + 1, acc, cs =>
    match cs with
    | '"' :: rest =>
      match string rest with
      | none => none
      | some (key, rest) =>
        match skip rest with
        | ':' :: rest =>
          match value (skip rest) with
          | none => none
          | some (v, rest) =>
            match skip rest with
            | ',' :: rest => membersTail value steps ((key, v) :: acc) (skip rest)
            | '\x7d' :: rest => some ((key, v) :: acc, rest)
            | _ => none
        | _ => none
    | _ => none

/-- An object after its opening brace. -/
def object (value : Step) (cs : List Char) : Option (Json × List Char) :=
  match skip cs with
  | '\x7d' :: rest => some (.empty, rest)
  | cs =>
    (membersTail value (cs.length + 1) [] cs).map fun (acc, rest) => (ofMembers acc.reverse, rest)

/-- A value whose arrays and objects are nested at most `depth` deep. -/
def value : Nat → Step
  | _, 'n' :: rest => (literal ['u', 'l', 'l'] rest).map (.null, ·)
  | _, 't' :: rest => (literal ['r', 'u', 'e'] rest).map (.bool true, ·)
  | _, 'f' :: rest => (literal ['a', 'l', 's', 'e'] rest).map (.bool false, ·)
  | _, '"' :: rest => (string rest).map fun (s, rest) => (.str s, rest)
  | depth + 1, '[' :: rest => array (value depth) rest
  | depth + 1, '\x7b' :: rest => object (value depth) rest
  | _, '[' :: _ => none
  | _, '\x7b' :: _ => none
  | _, cs => number cs

end Reader

/-- The deepest nesting that is read. -/
def maxDepth : Nat := 127

/-- The document a text holds. -/
def parse? (text : String) : Option Json :=
  match Reader.value maxDepth (Reader.skip text.toList) with
  | some (doc, rest) => if (Reader.skip rest).isEmpty then some doc else none
  | none => none

end IssueTracker.Json
