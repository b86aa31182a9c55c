import IssueTracker.Json.Binary64
/-!
# Numbers

A number of a document is an integer when it is written as one and fits 64 bits, and a
binary64 number otherwise. An integer and a float are never equal.
-/

namespace IssueTracker

/-- A number of a document. -/
inductive Number where
  | int (value : Int)
  | float (value : Binary64)
  deriving DecidableEq, Inhabited

namespace Number

/-- Numbers are equal within their kind; the two float zeros are equal. -/
instance : BEq Number where
  beq
    | .int m, .int n => m = n
    | .float x, .float y => x == y
    | _, _ => false

instance (n : Nat) : OfNat Number n := ⟨.int n⟩

/-- The 64-bit pattern that stands for a number in a feed: two's complement for integers,
the float's own pattern otherwise, with one pattern for both zeros. -/
def pattern : Number → UInt64
  | .int n => UInt64.ofNat (n % (Nat.pow 2 64 : Nat)).toNat
  | .float x => if x.isZero then 0 else x.bits

/-! ## Text -/

/-- How floats are written: positionally while the point falls from `leastPoint` to
`mostPoint` digits into the digits, otherwise with a signed exponent. -/
structure FloatLayout where
  leastPoint : Int
  mostPoint : Int
  plusSign : String
  minusSign : String

/-- Positional from `0.00001` up to sixteen digits before the point. -/
def layout : FloatLayout := ⟨-4, 16, "e+", "e-"⟩

/-- A run of zeros. -/
def zeros (n : Nat) : String := String.ofList (List.replicate n '0')

/-- The decimal `digits · 10^exponent` in a layout. -/
def renderDecimal (l : FloatLayout) (digits : Nat) (exponent : Int) : String :=
  let ds := Nat.toDigits 10 digits
  let point : Int := ds.length + exponent
  if 0 ≤ exponent ∧ point ≤ l.mostPoint then
    String.ofList ds ++ zeros exponent.toNat ++ ".0"
  else if 0 < point ∧ point ≤ l.mostPoint then
    String.ofList (ds.take point.toNat) ++ "." ++ String.ofList (ds.drop point.toNat)
  else if l.leastPoint ≤ point ∧ point ≤ 0 then
    "0." ++ zeros (-point).toNat ++ String.ofList ds
  else
    let mantissa := match ds with
      | [] => "0"
      | [d] => d.toString
      | d :: rest => d.toString ++ "." ++ String.ofList rest
    let e := point - 1
    mantissa ++ (if 0 ≤ e then l.plusSign else l.minusSign) ++ toString e.natAbs

/-- A finite float with the fewest digits that read back. -/
def renderFloat (x : Binary64) : String :=
  let sign := if x.negative then "-" else ""
  if x.isZero then sign ++ "0.0"
  else
    let d := Binary64.shortest x.magnitude.1 x.magnitude.2
    sign ++ renderDecimal layout d.digits d.exponent

/-- The text of a number. -/
def render : Number → String
  | .int n => toString n
  | .float x => renderFloat x

/-! ## Reading -/

/-- The largest integer that a document can hold exactly. -/
def maxUnsigned : Nat := Nat.pow 2 64 - 1

/-- The magnitude of the least integer that a document can hold exactly. -/
def maxNegative : Nat := Nat.pow 2 63

/-- Divides by `10^308` until the remaining exponent is in the table's range. -/
def scaleDown (x : Binary64) (e : Nat) : Binary64 :=
  if h : e ≤ 308 then x.div (.ofNat (Nat.pow 10 e))
  else if x.isZero then x
  else scaleDown (x.div (.ofNat (Nat.pow 10 308))) (e - 308)
  termination_by e

/-- `significand · 10^exponent`, computed in floats: the significand and the power are each
rounded, and so is their product or quotient. Nothing when it is out of range. -/
def float? (negative : Bool) (significand : Nat) (exponent : Int) : Option Binary64 :=
  let x := Binary64.ofNat significand
  let signed (y : Binary64) := if negative then y.neg else y
  if exponent < 0 then some (signed (scaleDown x (-exponent).toNat))
  else if exponent ≤ 308 then
    let y := x.mul (.ofNat (Nat.pow 10 exponent.toNat))
    if y.isFinite then some (signed y) else none
  else if x.isZero then some (signed x)
  else none

end Number

end IssueTracker
