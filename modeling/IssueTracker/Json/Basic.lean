import IssueTracker.Json.Number
import IssueTracker.Table
/-!
# Documents

The JSON value type that every request and answer is made of. The members of an object are
listed in ascending key order; `Json.ofMembers` brings them there.
-/

namespace IssueTracker

/-- A JSON document. -/
inductive Json where
  | null
  | bool (value : Bool)
  | num (value : Number)
  | str (value : String)
  | arr (items : List Json)
  | obj (members : List (String × Json))
  deriving Inhabited

namespace Json

/-! ## Equality -/

mutual

/-- Structural equality, with numbers compared as `Number` compares them. -/
def beq : Json → Json → Bool
  | .null, .null => true
  | .bool a, .bool b => a == b
  | .num a, .num b => a == b
  | .str a, .str b => a == b
  | .arr as, .arr bs => beqItems as bs
  | .obj as, .obj bs => beqMembers as bs
  | _, _ => false

/-- Equality item by item. -/
def beqItems : List Json → List Json → Bool
  | [], [] => true
  | a :: as, b :: bs => beq a b && beqItems as bs
  | _, _ => false

/-- Equality member by member. -/
def beqMembers : List (String × Json) → List (String × Json) → Bool
  | [], [] => true
  | (k, a) :: as, (l, b) :: bs => k == l && beq a b && beqMembers as bs
  | _, _ => false

end

instance : BEq Json := ⟨beq⟩

/-! ## Members -/

/-- The object with these members; of several with one key the last wins. -/
def ofMembers (members : List (String × Json)) : Json := .obj (Table.ofEntries members)

/-- The empty object. -/
def empty : Json := .obj []

/-- The value of an object's member. -/
def get? (key : String) : Json → Option Json
  | .obj members => Table.get? key members
  | _ => none

/-- The value of an object's member, `null` when there is none. -/
def getD (key : String) (doc : Json) : Json := (doc.get? key).getD .null

/-- The members of an object. -/
def asObject? : Json → Option (List (String × Json))
  | .obj members => some members
  | _ => none

/-- The items of an array. -/
def asArray? : Json → Option (List Json)
  | .arr items => some items
  | _ => none

/-- The text of a string. -/
def asString? : Json → Option String
  | .str s => some s
  | _ => none

/-- The value of a boolean. -/
def asBool? : Json → Option Bool
  | .bool b => some b
  | _ => none

/-- Whether this is `null`. -/
def isNull : Json → Bool
  | .null => true
  | _ => false

/-- Sets a member of an object; `null` counts as the empty object, and nothing else has
members to set. -/
def set? (doc : Json) (key : String) (value : Json) : Option Json :=
  match doc with
  | .obj members => some (.obj (Table.insert key value members))
  | .null => some (.obj [(key, value)])
  | _ => none

/-- Sets a member of an object and leaves other documents alone. -/
def set (doc : Json) (key : String) (value : Json) : Json := (doc.set? key value).getD doc

end Json

end IssueTracker
