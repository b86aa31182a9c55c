import IssueTracker.Text.Composition.Classes
import IssueTracker.Text.Composition.Pairs
/-!
# Composed form

Texts that look and mean the same have one composed form: characters are taken apart, marks are
put in the order of their classes, and everything is put together again as far as it goes.
-/

namespace IssueTracker.Text

/-- How often a character can be taken apart. -/
def maxPairDepth : Nat := 4

/-- What a character is made of, taken apart so many times. -/
def takeApart : Nat → Char → List Char
  | 0, c => [c]
  | depth + 1, c =>
    match pairOf? c with
    | some (a, b) => takeApart depth a ++ [b]
    | none => [c]

/-- Characters in order with one more in front, which moves behind marks of lower classes. -/
def insertOrdered (c : Char) : List Char → List Char
  | [] => [c]
  | d :: ds =>
    if 0 < combiningClass d ∧ combiningClass d < combiningClass c then d :: insertOrdered c ds
    else c :: d :: ds

/-- Characters with each run of marks in the order of their classes. -/
def orderMarks (cs : List Char) : List Char := cs.foldr insertOrdered []

/-- A character with the marks behind it that do not compose with it, and the class of the last
of them. -/
structure Cluster where
  base : Char
  marks : List Char
  lastClass : Nat

/-- A character alone. -/
def Cluster.of (c : Char) : Cluster := ⟨c, [], 0⟩

/-- The characters of a cluster. -/
def Cluster.chars (k : Cluster) : List Char := k.base :: k.marks

/-- Whether nothing stands between the base and a character of a class. -/
def Cluster.reaches (k : Cluster) (cls : Nat) : Bool := k.marks.isEmpty || k.lastClass < cls

/-- A cluster and characters in order, composed. -/
def composeFrom (k : Cluster) : List Char → List Char
  | [] => k.chars
  | c :: cs =>
    let cls := combiningClass c
    match if k.reaches cls then composedOf? k.base c else none with
    | some composed => composeFrom { k with base := composed } cs
    | none =>
      if cls = 0 then k.chars ++ composeFrom (.of c) cs
      else composeFrom ⟨k.base, k.marks ++ [c], cls⟩ cs

/-- Characters in order, composed. Marks at the start have no base. -/
def composeOrdered : List Char → List Char
  | [] => []
  | c :: cs => if combiningClass c = 0 then composeFrom (.of c) cs else c :: composeOrdered cs

/-- The composed form of a text without characters that are the same as a single other. -/
def compose (cs : List Char) : List Char :=
  composeOrdered (orderMarks (cs.flatMap (takeApart maxPairDepth)))

end IssueTracker.Text
