/-!
# Punycode

Text as ASCII. The ASCII characters come first; then numbers say where the others belong, in
ascending order of their code points. Each number is the distance from one place to the next,
written with digits of 36 values, the lowest first, and the thresholds that end a number follow
the size of the numbers so far.
-/

namespace IssueTracker.Url.Punycode

/-! ## Digits -/

/-- The character of a digit. -/
def digitChar (d : Nat) : Char :=
  if d < 26 then Char.ofNat ('a'.toNat + d) else Char.ofNat ('0'.toNat + (d - 26))

/-- The value of a digit. -/
def digit? (c : Char) : Option Nat :=
  if c.isLower then some (c.toNat - 'a'.toNat)
  else if c.isUpper then some (c.toNat - 'A'.toNat)
  else if c.isDigit then some (c.toNat - '0'.toNat + 26)
  else none

/-- The digits below this value end a number at a place. Places are counted in steps of 36. -/
def threshold (bias place : Nat) : Nat := max 1 (min 26 (place - bias))

theorem threshold_pos (bias place : Nat) : 1 ≤ threshold bias place := by
  unfold threshold; omega

/-- The place of a number's first digit. -/
def firstPlace : Nat := 36

/-! ## Bias -/

/-- Divides by 35 until 455 at most is left, and counts the steps. -/
def shrink (delta steps : Nat) : Nat × Nat :=
  if 455 < delta then shrink (delta / 35) (steps + 1) else (delta, steps)
  termination_by delta

/-- The bias after a number, of so many characters in all. The first number counts for less. -/
def adapt (delta count : Nat) (isFirst : Bool) : Nat :=
  let delta := if isFirst then delta / 700 else delta / 2
  let (delta, steps) := shrink (delta + delta / count) 0
  36 * steps + 36 * delta / (delta + 38)

/-! ## Writing -/

/-- The digits of a number from a place on. -/
def number (bias place n : Nat) : List Char :=
  let t := threshold bias place
  if n < t then [digitChar n]
  else digitChar (t + (n - t) % (36 - t)) :: number bias (place + 36) ((n - t) / (36 - t))
  termination_by n
  decreasing_by
    have := threshold_pos bias place
    have := Nat.div_le_self (n - threshold bias place) (36 - threshold bias place)
    omega

/-- What has been written, and where writing stands. -/
structure Writing where
  out : List Char
  /-- The distance from the last place. -/
  delta : Nat
  bias : Nat
  /-- The number of characters that have been written. -/
  count : Nat

/-- Goes past a character while those of one code point are written. -/
def Writing.pass (code : Nat) (basic : Nat) (w : Writing) (c : Char) : Writing :=
  if c.toNat < code then { w with delta := w.delta + 1 }
  else if c.toNat = code then
    { out := w.out ++ number w.bias firstPlace w.delta
      delta := 0
      bias := adapt w.delta (w.count + 1) (w.count = basic)
      count := w.count + 1 }
  else w

/-- The code points that are not ASCII, ascending and each once. -/
def codesOf (cs : List Char) : List Nat :=
  ((cs.map Char.toNat).filter (0x80 ≤ ·)).mergeSort.eraseDups

/-- Writes the characters of ascending code points, the first of which is above a last one. -/
def writeFrom (cs : List Char) (basic : Nat) : Writing → Nat → List Nat → Writing
  | w, _, [] => w
  | w, last, code :: codes =>
    let w := { w with delta := w.delta + (code - last) * (w.count + 1) }
    let w := cs.foldl (.pass code basic) w
    writeFrom cs basic { w with delta := w.delta + 1 } (code + 1) codes

/-- Text as ASCII. -/
def encode (cs : List Char) : List Char :=
  let basic := cs.filter (·.val < 0x80)
  let start := if basic.isEmpty then [] else basic ++ ['-']
  (writeFrom cs basic.length ⟨start, 0, 72, basic.length⟩ 0x80 (codesOf cs)).out

/-! ## Reading -/

/-- What has been read, and where reading stands. -/
structure Reading where
  out : List Char
  /-- The code point of the last character that was put in. -/
  code : Nat
  /-- The first place where the next one can go. -/
  place : Nat
  bias : Nat
  /-- The number that is being read: what its digits are worth so far, the worth of the next
  one, and its place. -/
  value : Nat
  weight : Nat
  digitPlace : Nat

/-- Puts in the character that a finished number stands for. Only the first one can start at
place zero. -/
def Reading.put? (r : Reading) (delta : Nat) : Option Reading :=
  let count := r.out.length + 1
  let place := r.place + delta
  let code := r.code + place / count
  if h : code.isValidChar then
    some {
      out := r.out.insertIdx (place % count) (Char.ofNatAux code h)
      code
      place := place % count + 1
      bias := adapt delta count (r.place = 0)
      value := 0
      weight := 1
      digitPlace := firstPlace }
  else none

/-- Goes past a digit. -/
def Reading.step? (r : Reading) (c : Char) : Option Reading := do
  let d ← digit? c
  let t := threshold r.bias r.digitPlace
  let value := r.value + d * r.weight
  if d < t then r.put? value
  else
    return { r with
      value
      weight := r.weight * (36 - t)
      digitPlace := r.digitPlace + 36 }

/-- The text before the last dash, and the text after it. -/
def splitBasic (cs : List Char) : List Char × List Char :=
  let tail := (cs.reverse.takeWhile (· ≠ '-')).reverse
  let start := (cs.take (cs.length - tail.length)).dropLast
  if start.isEmpty then ([], cs) else (start, tail)

/-- The text that ASCII stands for, if it stands for one. -/
def decode? (cs : List Char) : Option (List Char) := do
  let (basic, digits) := splitBasic cs
  let r ← digits.foldlM Reading.step? ⟨basic, 0x80, 0, 72, 0, 1, firstPlace⟩
  if r.digitPlace = firstPlace then some r.out else none

end IssueTracker.Url.Punycode
