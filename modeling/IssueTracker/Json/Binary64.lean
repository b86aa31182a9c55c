/-!
# Binary64

Floating-point numbers as their 64-bit patterns, with the arithmetic that reading and
writing decimals needs. All of it is exact integer arithmetic: a value is `m · 2^q`, and
every operation rounds one quotient of naturals to the nearest even neighbour.
-/

namespace IssueTracker

/-- A binary64 number, as its bit pattern. -/
structure Binary64 where
  bits : UInt64
  deriving DecidableEq, Inhabited

namespace Binary64

/-- Whether the sign bit is set. -/
def negative (x : Binary64) : Bool := x.bits.toNat / Nat.pow 2 63 % 2 = 1

/-- The biased exponent. -/
def exponentField (x : Binary64) : Nat := x.bits.toNat / Nat.pow 2 52 % Nat.pow 2 11

/-- The stored fraction. -/
def fractionField (x : Binary64) : Nat := x.bits.toNat % Nat.pow 2 52

/-- Neither infinite nor a NaN. -/
def isFinite (x : Binary64) : Bool := x.exponentField != 2047

/-- Either zero. -/
def isZero (x : Binary64) : Bool := x.exponentField = 0 ∧ x.fractionField = 0

/-- A NaN, of either sign. -/
def isNaN (x : Binary64) : Bool := !x.isFinite && x.fractionField != 0

/-- The magnitude `m · 2^q` of a finite number. -/
def magnitude (x : Binary64) : Nat × Int :=
  if x.exponentField = 0 then (x.fractionField, -1074)
  else (x.fractionField + Nat.pow 2 52, (x.exponentField : Int) - 1075)

/-- Numbers are equal when their patterns are, and the two zeros are equal. -/
instance : BEq Binary64 where
  beq x y := x.bits = y.bits || (x.isZero && y.isZero)

/-- The pattern of a sign and a magnitude's pattern. -/
def ofSign (negative : Bool) (pattern : Nat) : Binary64 :=
  ⟨UInt64.ofNat (if negative then pattern + Nat.pow 2 63 else pattern)⟩

/-- The number with the opposite sign. -/
def neg (x : Binary64) : Binary64 :=
  ofSign (!x.negative) (x.bits.toNat % Nat.pow 2 63)

/-- The pattern of positive infinity. -/
def infinityPattern : Nat := 2047 * Nat.pow 2 52

/-- A quotient of naturals as a quotient by `2^q`. -/
def scale (num den : Nat) (q : Int) : Nat × Nat :=
  if 0 ≤ q then (num, den * Nat.pow 2 q.toNat) else (num * Nat.pow 2 (-q).toNat, den)

/-- The exponent at which `num / den` has 53 bits, or the least exponent there is. -/
def exponentOf (num den : Nat) : Int :=
  let q := max ((num.log2 : Int) - den.log2 - 53) (-1074)
  let (n, d) := scale num den q
  if n / d < Nat.pow 2 53 then q else q + 1

/-- Rounds a quotient to the nearest natural, a half to the even one. -/
def roundDiv (n d : Nat) : Nat :=
  let r := n % d
  if d < 2 * r ∨ (2 * r = d ∧ n / d % 2 = 1) then n / d + 1 else n / d

/-- The pattern nearest to `num / den`; too large a quotient gives infinity. -/
def patternOf (num den : Nat) : Nat :=
  if num = 0 then 0
  else
    let q := exponentOf num den
    let (n, d) := scale num den q
    min ((q + 1074).toNat * Nat.pow 2 52 + roundDiv n d) infinityPattern

/-- The number nearest to `num / den` under a sign. -/
def ofRatio (negative : Bool) (num den : Nat) : Binary64 :=
  ofSign negative (patternOf num den)

/-- The number nearest to a natural. -/
def ofNat (n : Nat) : Binary64 := ofRatio false n 1

/-- The magnitude as a quotient of naturals. -/
def ratio (x : Binary64) : Nat × Nat :=
  let (m, q) := x.magnitude
  if 0 ≤ q then (m * Nat.pow 2 q.toNat, 1) else (m, Nat.pow 2 (-q).toNat)

/-- The rounded product of two finite numbers. -/
def mul (x y : Binary64) : Binary64 :=
  ofRatio (x.negative != y.negative) (x.ratio.1 * y.ratio.1) (x.ratio.2 * y.ratio.2)

/-- The rounded quotient of two finite numbers, the second of them not zero. -/
def div (x y : Binary64) : Binary64 :=
  ofRatio (x.negative != y.negative) (x.ratio.1 * y.ratio.2) (x.ratio.2 * y.ratio.1)

/-! ## Shortest decimals -/

/-- The decimal `digits · 10^exponent`. -/
structure Decimal where
  digits : Nat
  exponent : Int
  deriving DecidableEq

/-- The reals that round to `m · 2^q`, as bounds over the common denominator `4 · den`:
`(low, value, high, den)`. The lower neighbour of a power of two is only half as far. -/
def interval (m : Nat) (q : Int) : Nat × Nat × Nat × Nat :=
  let (up, den) := if 0 ≤ q then (Nat.pow 2 q.toNat, 1) else (1, Nat.pow 2 (-q).toNat)
  let below := if m = Nat.pow 2 52 ∧ -1074 < q then 1 else 2
  ((4 * m - below) * up, 4 * m * up, (4 * m + 2) * up, 4 * den)

/-- The decimals `k · 10^e` next to a value, nearest first. -/
def neighbours (value den : Nat) (e : Int) : List Nat :=
  let (n, d) :=
    if 0 ≤ e then (value, den * Nat.pow 10 e.toNat)
    else (value * Nat.pow 10 (-e).toNat, den)
  let k := n / d
  if 2 * (n % d) < d ∨ (2 * (n % d) = d ∧ k % 2 = 0) then [k, k + 1] else [k + 1, k]

/-- Whether `k · 10^e` lies in an interval, whose ends belong to it when `closed`. -/
def inInterval (low high den : Nat) (closed : Bool) (e : Int) (k : Nat) : Bool :=
  let (x, d) :=
    if 0 ≤ e then (k * Nat.pow 10 e.toNat * den, 1) else (k * den, Nat.pow 10 (-e).toNat)
  if closed then low * d ≤ x && x ≤ high * d else low * d < x && x < high * d

/-- The number of decimal digits before the point of a quotient, up to one too many. -/
def decimalWidth (value den : Nat) : Int :=
  ((value.log2 : Int) - den.log2 + 1) * 30103 / 100000 + 1

/-- The first grid `10^e`, from `e` downwards, with a point in the interval. -/
def shortestFrom (low value high den : Nat) (closed : Bool) (e : Int) : Nat → Decimal
  | 0 => ⟨value, e⟩
  | steps + 1 =>
    match (neighbours value den e).find? (inInterval low high den closed e) with
    | some k => if k = 0 then shortestFrom low value high den closed (e - 1) steps else ⟨k, e⟩
    | none => shortestFrom low value high den closed (e - 1) steps

/-- The fewest digits that read back as `m · 2^q`, and of those the nearest. -/
def shortest (m : Nat) (q : Int) : Decimal :=
  let (low, value, high, den) := interval m q
  shortestFrom low value high den (m % 2 = 0) (decimalWidth value den) 25

end Binary64

end IssueTracker
