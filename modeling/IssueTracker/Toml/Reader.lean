import IssueTracker.Json.Reader
import IssueTracker.Timestamp
import IssueTracker.Toml.Basic
/-!
# Reading configuration documents

The grammar of TOML 1.1. Every function takes the characters ahead and gives a value with
those that remain.
-/

namespace IssueTracker.Toml

namespace Reader

/-! ## Blanks and comments -/

/-- A space or a tab. -/
def isBlank (c : Char) : Bool := c = ' ' || c = '\t'

/-- Skips blanks. -/
def skip (cs : List Char) : List Char := cs.dropWhile isBlank

/-- Whether a character may stand in a comment or a literal text. -/
def isPrintable (c : Char) : Bool := c = '\t' || (0x20 ≤ c.val && c.val ≠ 0x7F)

/-- A line end. -/
def newline? : List Char → Option (List Char)
  | '\n' :: rest => some rest
  | '\r' :: '\n' :: rest => some rest
  | _ => none

/-- Skips a comment up to its line end. -/
def comment : List Char → List Char
  | '#' :: rest => rest.dropWhile isPrintable
  | cs => cs

/-- Skips what may follow on a line, with its end. -/
def lineEnd (cs : List Char) : Option (List Char) :=
  match comment (skip cs) with
  | [] => some []
  | cs => newline? cs

/-- Skips blanks, comments and line ends, with as many steps as allowed. -/
def gap : Nat → List Char → List Char
  | 0, cs => cs
  | steps + 1, cs =>
    let cs := comment (skip cs)
    match newline? cs with
    | some rest => gap steps rest
    | none => cs

/-- Skips blanks, comments and line ends. -/
def skipLines (cs : List Char) : List Char := gap (cs.length + 1) cs

/-! ## Texts -/

/-- The value of some hexadecimal digits. -/
def hexDigits : Nat → Nat → List Char → Option (Nat × List Char)
  | 0, acc, cs => some (acc, cs)
  | n + 1, acc, c :: cs => (Json.Reader.hex? c).bind fun d => hexDigits n (acc * 16 + d) cs
  | _ + 1, _, [] => none

/-- A character given by its number. -/
def numbered (digits : Nat) (cs : List Char) : Option (Char × List Char) :=
  (hexDigits digits 0 cs).bind fun (n, rest) =>
    if n < 0xD800 ∨ (0xDFFF < n ∧ n < 0x110000) then some (Char.ofNat n, rest) else none

/-- An escape after its backslash. -/
def escape : List Char → Option (Char × List Char)
  | 'b' :: rest => some ('\x08', rest)
  | 't' :: rest => some ('\t', rest)
  | 'n' :: rest => some ('\n', rest)
  | 'f' :: rest => some ('\x0c', rest)
  | 'r' :: rest => some ('\r', rest)
  | 'e' :: rest => some ('\x1b', rest)
  | '"' :: rest => some ('"', rest)
  | '\\' :: rest => some ('\\', rest)
  | 'x' :: rest => numbered 2 rest
  | 'u' :: rest => numbered 4 rest
  | 'U' :: rest => numbered 8 rest
  | _ => none

/-- The rest of a text on one line, last character first. -/
def basicTail : Nat → List Char → List Char → Option (List Char × List Char)
  | 0, _, _ => none
  | _ + 1, acc, '"' :: rest => some (acc, rest)
  | steps + 1, acc, '\\' :: rest =>
    match escape rest with
    | some (c, rest) => basicTail steps (c :: acc) rest
    | none => none
  | steps + 1, acc, c :: rest => if isPrintable c then basicTail steps (c :: acc) rest else none
  | _ + 1, _, [] => none

/-- Skips blanks and line ends after a backslash at the end of a line. -/
def foldedLine (cs : List Char) : Option (List Char) :=
  (newline? (skip cs)).map fun rest =>
    rest.dropWhile fun c => isBlank c || c = '\n' || c = '\r'

/-- Up to two quotes directly before the three that end a text. -/
def closing (quote : Char) (acc : List Char) : List Char → Option (List Char × List Char)
  | a :: b :: c :: d :: e :: rest =>
    if a = quote ∧ b = quote ∧ c = quote then
      if d = quote ∧ e = quote then some (quote :: quote :: acc, rest)
      else if d = quote then some (quote :: acc, e :: rest)
      else some (acc, d :: e :: rest)
    else none
  | a :: b :: c :: rest =>
    if a = quote ∧ b = quote ∧ c = quote then
      if rest = [quote] then some (quote :: acc, []) else some (acc, rest)
    else none
  | _ => none

/-- The rest of a text over several lines, last character first. -/
def longBasicTail : Nat → List Char → List Char → Option (List Char × List Char)
  | 0, _, _ => none
  | steps + 1, acc, cs =>
    match closing '"' acc cs with
    | some done => some done
    | none =>
      match cs with
      | '\\' :: rest =>
        match escape rest with
        | some (c, rest) => longBasicTail steps (c :: acc) rest
        | none =>
          match foldedLine rest with
          | some rest => longBasicTail steps acc rest
          | none => none
      | '\r' :: '\n' :: rest => longBasicTail steps ('\n' :: acc) rest
      | c :: rest =>
        if isPrintable c ∨ c = '\n' then longBasicTail steps (c :: acc) rest else none
      | [] => none

/-- The rest of a literal text over several lines, last character first. -/
def longLiteralTail : Nat → List Char → List Char → Option (List Char × List Char)
  | 0, _, _ => none
  | steps + 1, acc, cs =>
    match closing '\'' acc cs with
    | some done => some done
    | none =>
      match cs with
      | '\r' :: '\n' :: rest => longLiteralTail steps ('\n' :: acc) rest
      | c :: rest =>
        if isPrintable c ∨ c = '\n' then longLiteralTail steps (c :: acc) rest else none
      | [] => none

/-- A finished text. -/
def finish (r : Option (List Char × List Char)) : Option (String × List Char) :=
  r.map fun (acc, rest) => (String.ofList acc.reverse, rest)

/-- The first line end of a text over several lines is not part of it. -/
def afterOpening (cs : List Char) : List Char := (newline? cs).getD cs

/-- A literal text after its quote. -/
def literalTail (cs : List Char) : Option (String × List Char) :=
  match cs.dropWhile fun c => isPrintable c && c ≠ '\'' with
  | '\'' :: rest =>
    some (String.ofList (cs.takeWhile fun c => isPrintable c && c ≠ '\''), rest)
  | _ => none

/-- A text on one line. -/
def shortText : List Char → Option (String × List Char)
  | '"' :: rest => finish (basicTail (rest.length + 1) [] rest)
  | '\'' :: rest => literalTail rest
  | _ => none

/-- A text. -/
def text : List Char → Option (String × List Char)
  | '"' :: '"' :: '"' :: rest => finish (longBasicTail (rest.length + 1) [] (afterOpening rest))
  | '\'' :: '\'' :: '\'' :: rest =>
    finish (longLiteralTail (rest.length + 1) [] (afterOpening rest))
  | cs => shortText cs

/-! ## Keys -/

/-- Whether a character may stand in a key without quotes. -/
def isKeyChar (c : Char) : Bool := c.isAlphanum || c = '_' || c = '-'

/-- One key. -/
def key (cs : List Char) : Option (String × List Char) :=
  match cs.takeWhile isKeyChar with
  | [] => shortText cs
  | name => some (String.ofList name, cs.dropWhile isKeyChar)

/-- Keys with dots between them, with as many steps as allowed. -/
def keys : Nat → List Char → Option (List String × List Char)
  | 0, _ => none
  | steps + 1, cs =>
    match key (skip cs) with
    | none => none
    | some (k, rest) =>
      match skip rest with
      | '.' :: rest => (keys steps rest).map fun (ks, rest) => (k :: ks, rest)
      | rest => some ([k], rest)

/-- A dotted key. -/
def dottedKey (cs : List Char) : Option (List String × List Char) := keys (cs.length + 1) cs

/-! ## Numbers -/

/-- Digits of a base with single underscores between them. -/
def digits (base : Nat) : List Char → Option (List Nat)
  | [] => none
  | [c] => (digit c).map ([·])
  | c :: '_' :: rest => do return (← digit c) :: (← digits base rest)
  | c :: rest => do return (← digit c) :: (← digits base rest)
where
  /-- The value of a digit. -/
  digit (c : Char) : Option Nat := (Json.Reader.hex? c).filter (· < base)

/-- The number of digits in a base. -/
def ofDigits (base : Nat) (ds : List Nat) : Nat := ds.foldl (fun n d => n * base + d) 0

/-- A sign and what follows it. -/
def sign : List Char → Bool × List Char
  | '-' :: rest => (true, rest)
  | '+' :: rest => (false, rest)
  | cs => (false, cs)

/-- An integer that fits 64 bits. -/
def inRange (n : Int) : Option Toml :=
  if -(Nat.pow 2 63 : Int) ≤ n ∧ n < (Nat.pow 2 63 : Int) then some (.integer n) else none

/-- Decimal digits without a leading zero. -/
def plainDigits (cs : List Char) : Option (List Nat) :=
  match cs with
  | '0' :: _ :: _ => none
  | cs => digits 10 cs

/-- An integer. -/
def integer (cs : List Char) : Option Toml :=
  match cs with
  | '0' :: 'x' :: rest => (digits 16 rest).bind fun ds => inRange (ofDigits 16 ds)
  | '0' :: 'o' :: rest => (digits 8 rest).bind fun ds => inRange (ofDigits 8 ds)
  | '0' :: 'b' :: rest => (digits 2 rest).bind fun ds => inRange (ofDigits 2 ds)
  | cs =>
    let (negative, rest) := sign cs
    (plainDigits rest).bind fun ds =>
      inRange (if negative then -(ofDigits 10 ds : Int) else ofDigits 10 ds)

/-- `digits · 10^exponent` as a float, unless it is too large. -/
def floatOf (negative : Bool) (n : Nat) (exponent : Int) : Option Toml :=
  let x :=
    if 0 ≤ exponent then Binary64.ofRatio negative (n * Nat.pow 10 exponent.toNat) 1
    else Binary64.ofRatio negative n (Nat.pow 10 (-exponent).toNat)
  if x.isFinite then some (.float x) else none

/-- The largest exponent that is worked out. Beyond it there is only zero or too much, unless
there are ten thousand digits. -/
def exponentBound : Nat := 10400

/-- The exponent of a float after its letter, kept near the range of floats. -/
def exponent (cs : List Char) : Option Int :=
  let (negative, rest) := sign cs
  (digits 10 rest).map fun ds =>
    let e : Int := min (ofDigits 10 ds) exponentBound
    if negative then -e else e

/-- A float, infinity or a number that is none. -/
def float (cs : List Char) : Option Toml :=
  let (negative, rest) := sign cs
  if rest = ['i', 'n', 'f'] then some (.float (.ofSign negative Binary64.infinityPattern))
  else if rest = ['n', 'a', 'n'] then
    some (.float (.ofSign negative (Binary64.infinityPattern + Nat.pow 2 51)))
  else
    let mantissa := rest.takeWhile fun c => c ≠ 'e' && c ≠ 'E'
    let tail := rest.drop mantissa.length
    let whole := mantissa.takeWhile (· ≠ '.')
    let part := mantissa.drop whole.length
    do
      let ds ← plainDigits whole
      let fs ← match part with
        | [] => some []
        | _ :: fs => digits 10 fs
      let e ← match tail with
        | [] => some 0
        | _ :: e => exponent e
      if part = [] ∧ tail = [] then none
      else floatOf negative (ofDigits 10 (ds ++ fs)) (e - fs.length)

/-! ## Dates and times -/

/-- A number of exactly so many digits. -/
def fixed (width low high : Nat) (cs : List Char) : Option (Nat × List Char) :=
  let ds := cs.take width
  if ds.length = width ∧ ds.all Char.isDigit then
    let n := Timestamp.digitsValue ds
    if low ≤ n ∧ n ≤ high then some (n, cs.drop width) else none
  else none

/-- A date, in its normal form. -/
def date (cs : List Char) : Option (String × List Char) := do
  let (year, cs) ← fixed 4 0 9999 cs
  let cs ← Timestamp.expect '-' cs
  let (month, cs) ← fixed 2 1 12 cs
  let cs ← Timestamp.expect '-' cs
  let (day, cs) ← fixed 2 1 (Timestamp.daysInMonth year month) cs
  return (Timestamp.padded 4 year ++ "-" ++ Timestamp.padded 2 month ++ "-" ++
    Timestamp.padded 2 day, cs)

/-- A fraction of a second in nanoseconds; what is finer is dropped. -/
def fraction : List Char → Option (Nat × List Char)
  | '.' :: cs =>
    match cs.takeWhile Char.isDigit with
    | [] => none
    | ds =>
      let kept := ds.take 9
      some (Timestamp.digitsValue kept * Nat.pow 10 (9 - kept.length), cs.drop ds.length)
  | cs => some (0, cs)

/-- Seconds and their fraction, in their normal form; they may be absent. -/
def seconds : List Char → Option (String × List Char)
  | ':' :: cs => do
    let (second, cs) ← fixed 2 0 60 cs
    let (nanos, cs) ← fraction cs
    return (":" ++ Timestamp.padded 2 second ++ Timestamp.renderFraction nanos, cs)
  | cs => some ("", cs)

/-- A time of day, in its normal form. -/
def time (cs : List Char) : Option (String × List Char) := do
  let (hour, cs) ← fixed 2 0 23 cs
  let cs ← Timestamp.expect ':' cs
  let (minute, cs) ← fixed 2 0 59 cs
  let (rest, cs) ← seconds cs
  return (Timestamp.padded 2 hour ++ ":" ++ Timestamp.padded 2 minute ++ rest, cs)

/-- An offset from UTC, in its normal form; it may be absent. -/
def offset (cs : List Char) : Option (String × List Char) :=
  match cs with
  | 'Z' :: cs => some ("Z", cs)
  | 'z' :: cs => some ("Z", cs)
  | '+' :: cs => hours "+" cs
  | '-' :: cs => hours "-" cs
  | cs => some ("", cs)
where
  /-- Hours and minutes after a sign. -/
  hours (mark : String) (cs : List Char) : Option (String × List Char) := do
    let (hour, cs) ← fixed 2 0 23 cs
    let cs ← Timestamp.expect ':' cs
    let (minute, cs) ← fixed 2 0 59 cs
    return (mark ++ Timestamp.padded 2 hour ++ ":" ++ Timestamp.padded 2 minute, cs)

/-- A date, a time, or both with or without an offset. -/
def moment (cs : List Char) : Option Toml :=
  match date cs with
  | some (d, []) => some (.moment d)
  | some (d, c :: cs) =>
    if c = 'T' ∨ c = 't' ∨ c = ' ' then do
      let (t, cs) ← time cs
      let (o, cs) ← offset cs
      if cs.isEmpty then some (.moment (d ++ "T" ++ t ++ o)) else none
    else none
  | none =>
    match time cs with
    | some (t, []) => some (.moment t)
    | _ => none

/-! ## Values -/

/-- Whether a character ends a value without quotes. -/
def endsBare (c : Char) : Bool :=
  isBlank c || c = '\n' || c = '\r' || c = ',' || c = ']' || c = '\x7d' || c = '#'

/-- The characters of a value without quotes. A date may be followed by a blank and a time. -/
def bareToken (cs : List Char) : List Char × List Char :=
  let token := cs.takeWhile (!endsBare ·)
  let rest := cs.drop token.length
  match rest with
  | ' ' :: c :: _ =>
    if (date token).any (·.2.isEmpty) && c.isDigit then
      let more := (rest.drop 1).takeWhile (!endsBare ·)
      (token ++ ' ' :: more, rest.drop (more.length + 1))
    else (token, rest)
  | _ => (token, rest)

/-- What a value without quotes stands for. -/
def bareValue (token : List Char) : Option Toml :=
  if token = ['t', 'r', 'u', 'e'] then some (.boolean true)
  else if token = ['f', 'a', 'l', 's', 'e'] then some (.boolean false)
  else ((integer token).orElse fun _ => float token).orElse fun _ => moment token

/-- How one value is read. -/
abbrev Step := List Char → Option (Toml × List Char)

/-- Items up to the closing bracket, last first, with as many steps as allowed. -/
def itemsTail (value : Step) : Nat → List Toml → List Char → Option (List Toml × List Char)
  | 0, _, _ => none
  | steps + 1, acc, cs =>
    match skipLines cs with
    | ']' :: rest => some (acc, rest)
    | cs =>
      match value cs with
      | none => none
      | some (item, rest) =>
        match skipLines rest with
        | ',' :: rest => itemsTail value steps (item :: acc) rest
        | ']' :: rest => some (item :: acc, rest)
        | _ => none

/-- An array after its opening bracket. -/
def array (value : Step) (cs : List Char) : Option (Toml × List Char) :=
  (itemsTail value (cs.length + 1) [] cs).map fun (acc, rest) => (.array acc.reverse, rest)

/-- An entry: a dotted key, an equals sign and a value. -/
def entry (value : Step) (cs : List Char) : Option ((List String × Toml) × List Char) :=
  match dottedKey cs with
  | some (ks, '=' :: rest) => (value (skip rest)).map fun (v, rest) => ((ks, v), rest)
  | _ => none

/-- Entries up to the closing brace, last first, with as many steps as allowed. -/
def entriesTail (value : Step) :
    Nat → List (List String × Toml) → List Char → Option (List (List String × Toml) × List Char)
  | 0, _, _ => none
  | steps + 1, acc, cs =>
    match skipLines cs with
    | '\x7d' :: rest => some (acc, rest)
    | cs =>
      match entry value cs with
      | none => none
      | some (e, rest) =>
        match skipLines rest with
        | ',' :: rest => entriesTail value steps (e :: acc) rest
        | '\x7d' :: rest => some (e :: acc, rest)
        | _ => none

/-- A table after its opening brace. -/
def braces (value : Step) (cs : List Char) : Option (Toml × List Char) := do
  let (acc, rest) ← entriesTail value (cs.length + 1) [] cs
  let table ← inlineTable acc.reverse
  return (table, rest)

/-- A value with so many levels of arrays and tables inside. -/
def value : Nat → Step
  | depth, cs =>
    match depth, cs with
    | _, '"' :: _ => (text cs).map fun (s, rest) => (.text s, rest)
    | _, '\'' :: _ => (text cs).map fun (s, rest) => (.text s, rest)
    | depth + 1, '[' :: rest => array (value depth) rest
    | depth + 1, '\x7b' :: rest => braces (value depth) rest
    | 0, '[' :: _ => none
    | 0, '\x7b' :: _ => none
    | _, _ =>
      let (token, rest) := bareToken cs
      (bareValue token).map (·, rest)

/-! ## Lines -/

/-- The deepest nesting that is read. -/
def maxDepth : Nat := 79

/-- A header after its brackets. -/
def header (cs : List Char) : Option (Line × List Char) :=
  match cs with
  | '[' :: rest =>
    match dottedKey rest with
    | some (ks, ']' :: ']' :: rest) => some (.repeated ks, rest)
    | _ => none
  | _ =>
    match dottedKey cs with
    | some (ks, ']' :: rest) => some (.header ks, rest)
    | _ => none

/-- A line that says something. -/
def line (cs : List Char) : Option (Line × List Char) :=
  match cs with
  | '[' :: rest => header rest
  | _ => (entry (value maxDepth) cs).map fun ((ks, v), rest) => (.entry ks v, rest)

/-- The lines of a document, with as many steps as allowed. -/
def lines : Nat → List Char → Option (List Line)
  | 0, _ => none
  | steps + 1, cs =>
    match skipLines cs with
    | [] => some []
    | cs => do
      let (l, rest) ← line cs
      let rest ← lineEnd rest
      let ls ← lines steps rest
      return l :: ls

/-- Text without a byte order mark. -/
def withoutMark : List Char → List Char
  | c :: cs => if c.val = 0xFEFF then cs else c :: cs
  | [] => []

end Reader

/-- The entries of the document that a text holds. -/
def parse? (s : String) : Option (List (String × Toml)) :=
  let cs := Reader.withoutMark s.toList
  (Reader.lines (cs.length + 1) cs).bind ofLines

end IssueTracker.Toml
