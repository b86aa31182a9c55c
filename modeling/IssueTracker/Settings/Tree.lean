import IssueTracker.Json.Number
import IssueTracker.Table
import IssueTracker.Timestamp
import IssueTracker.Toml.Basic
/-!
# Trees of settings

What a settings file and the environment say together. Every setting is a text in the end, so a
scalar is kept as the text it is written as. A later source changes a tree place by place:
tables are merged and everything else is replaced.
-/

namespace IssueTracker.Settings

/-- A tree of settings. -/
inductive Tree where
  /-- A place in a list that nothing has filled yet. -/
  | unset
  | text (value : String)
  | list (items : List Tree)
  | table (entries : List (String × Tree))
  deriving Inhabited

namespace Tree

/-! ## Places -/

/-- One step down a tree. A negative index counts from the end of a list. -/
inductive Step where
  | key (name : String)
  | index (position : Int)
  deriving DecidableEq

/-- The entries of a table; everything else has none. -/
def entries : Tree → Table Tree
  | .table entries => entries
  | _ => []

/-- The items of a list; everything else has none. -/
def items : Tree → List Tree
  | .list items => items
  | _ => []

/-- The items with room for a position, and the position from the front. New items stand where
the position asks for them, at the end or before the first. -/
def reach (position : Int) (items : List Tree) : List Tree × Nat :=
  let fromFront := if 0 ≤ position then position else items.length + position
  if 0 ≤ fromFront then
    let n := fromFront.toNat
    (items ++ List.replicate (n + 1 - items.length) .unset, n)
  else (List.replicate (-fromFront).toNat .unset ++ items, 0)

/-- The tree with the place at the end of some steps changed. What a step cannot go through is
replaced. -/
def modify (change : Tree → Tree) : List Step → Tree → Tree
  | [], tree => change tree
  | .key name :: steps, tree =>
    let below := ((Table.get? name tree.entries).getD .unset).modify change steps
    .table (Table.insert name below tree.entries)
  | .index position :: steps, tree =>
    let (items, n) := reach position tree.items
    .list (items.modify n fun item => item.modify change steps)

mutual

/-- The tree with another laid over it. -/
def overlay : Tree → Tree → Tree
  | .table entries, below => .table (overlayEntries entries below.entries)
  | above, _ => above

/-- The entries with others laid over them. -/
def overlayEntries : List (String × Tree) → Table Tree → Table Tree
  | [], below => below
  | (key, above) :: rest, below =>
    let value := overlay above ((Table.get? key below).getD .unset)
    overlayEntries rest (Table.insert key value below)

end

/-! ## Names of places -/

/-- Whether a character may stand in the name of a key. -/
def isNameChar (c : Char) : Bool := c.isAlphanum || c = '_' || c = '-'

/-- The largest position that a name of a place holds. -/
def maxPosition : Nat := Nat.pow 2 63 - 1

/-- Whether there are only digits, and at least one. -/
def isNumeral (cs : List Char) : Bool := !cs.isEmpty && cs.all Char.isDigit

/-- The position that is written between brackets. -/
def position? (cs : List Char) : Option Int :=
  match cs with
  | '-' :: ds =>
    if isNumeral ds ∧ Timestamp.digitsValue ds ≤ maxPosition + 1 then
      some (-(Timestamp.digitsValue ds : Int))
    else none
  | ds =>
    if isNumeral ds ∧ Timestamp.digitsValue ds ≤ maxPosition then
      some (Timestamp.digitsValue ds)
    else none

/-- The steps after a first name: names after dots and positions in brackets. -/
def steps? : Nat → List Char → Option (List Step)
  | _, [] => some []
  | 0, _ => none
  | fuel + 1, '.' :: cs =>
    let name := cs.takeWhile isNameChar
    if name.isEmpty then none
    else (steps? fuel (cs.dropWhile isNameChar)).map (.key (String.ofList name) :: ·)
  | fuel + 1, '[' :: cs =>
    match position? (cs.takeWhile (· ≠ ']')), cs.dropWhile (· ≠ ']') with
    | some n, _ :: rest => (steps? fuel rest).map (.index n :: ·)
    | _, _ => none
  | _, _ => none

/-- The steps to a named place such as `log.directives` or `custom_fields[0].kind`. A name of
another form is a single key. -/
def place (name : String) : List Step :=
  let cs := name.toList
  let root := cs.takeWhile isNameChar
  match root, steps? cs.length (cs.dropWhile isNameChar) with
  | _ :: _, some steps => .key (String.ofList root) :: steps
  | _, _ => [.key name]

/-- The tree with the settings of another source, each under the name of its place. -/
def layer (source : List (String × Tree)) (tree : Tree) : Tree :=
  source.foldl (fun tree (name, value) => tree.modify value.overlay (place name)) tree

/-! ## From files -/

/-- The text of a float: the fewest digits that read back, always positional, and no point
behind a whole number. -/
def floatText (x : Binary64) : String :=
  let sign := if x.negative then "-" else ""
  if x.isNaN then "NaN"
  else if !x.isFinite then sign ++ "inf"
  else if x.isZero then sign ++ "0"
  else
    let d := Binary64.shortest x.magnitude.1 x.magnitude.2
    let ds := Nat.toDigits 10 d.digits
    let point : Int := ds.length + d.exponent
    sign ++
      if 0 ≤ d.exponent then String.ofList ds ++ Number.zeros d.exponent.toNat
      else if 0 < point then
        String.ofList (ds.take point.toNat) ++ "." ++ String.ofList (ds.drop point.toNat)
      else "0." ++ Number.zeros (-point).toNat ++ String.ofList ds

mutual

/-- The tree of a value in a file. -/
def ofToml : Toml → Tree
  | .text s => .text s
  | .integer n => .text (toString n)
  | .float x => .text (floatText x)
  | .boolean b => .text (if b then "true" else "false")
  | .moment s => .text s
  | .array values => .list (ofItems values)
  | .table values => .table (Table.ofEntries (ofEntries values))

/-- The trees of an array's values. -/
def ofItems : List Toml → List Tree
  | [] => []
  | value :: rest => ofToml value :: ofItems rest

/-- The trees of a table's values. -/
def ofEntries : List (String × Toml) → List (String × Tree)
  | [] => []
  | (key, value) :: rest => (key, ofToml value) :: ofEntries rest

end

end Tree

end IssueTracker.Settings
