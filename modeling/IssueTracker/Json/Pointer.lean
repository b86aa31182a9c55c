import IssueTracker.Json.Basic
import IssueTracker.Text.Split
/-!
# Pointers

Places inside a document, written `/fields/status/name`. In a written pointer `~1` stands for
a slash and `~0` for a tilde. An array is indexed by decimal numbers without leading zeros.
-/

namespace IssueTracker.Json

/-- A written place in a document, and the steps it consists of if it is well formed. -/
structure Pointer where
  text : String
  steps : Option (List String)
  deriving DecidableEq

namespace Pointer

/-- Replaces each pair of characters by one character. -/
def replacePair (a b c : Char) : List Char → List Char
  | x :: y :: rest =>
    if x = a ∧ y = b then c :: replacePair a b c rest
    else x :: replacePair a b c (y :: rest)
  | rest => rest

/-- The key a written step stands for. -/
def unescape (cs : List Char) : List Char :=
  replacePair '~' '0' '~' (replacePair '~' '1' '/' cs)

/-- The steps of a written pointer. The empty text is the whole document, and any other
pointer starts with a slash. -/
def stepsOf : List Char → Option (List String)
  | [] => some []
  | '/' :: cs => some ((Text.splitOn '/' cs).map fun step => String.ofList (unescape step))
  | _ :: _ => none

/-- A pointer as it was written. -/
def ofText (text : String) : Pointer := ⟨text, stepsOf text.toList⟩

/-- The pointer through these keys, none of which holds a slash or a tilde. -/
def ofKeys (keys : List String) : Pointer :=
  ⟨String.join (keys.map ("/" ++ ·)), some keys⟩

end Pointer

/-- The value of a run of decimal digits. -/
def decimal? (cs : List Char) : Option Nat :=
  if cs.isEmpty || !cs.all Char.isDigit then none
  else some (cs.foldl (fun n c => n * 10 + (c.toNat - '0'.toNat)) 0)

/-- The position a step names in an array. -/
def index? (step : String) : Option Nat :=
  match step.toList with
  | ['0'] => some 0
  | '0' :: _ => none
  | cs => decimal? cs

/-- The document at the end of these steps. -/
def follow : List String → Json → Option Json
  | [], doc => some doc
  | step :: steps, .obj members => (Table.get? step members).bind (follow steps)
  | step :: steps, .arr items =>
    (index? step).bind fun i => (items[i]?).bind (follow steps)
  | _ :: _, _ => none

/-- The document a pointer leads to. -/
def pointer (doc : Json) (p : Pointer) : Option Json :=
  p.steps.bind fun steps => follow steps doc

end IssueTracker.Json
