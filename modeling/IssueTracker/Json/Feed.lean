import IssueTracker.Json.Basic
/-!
# Feeds

What a hasher is fed for a document: a sequence of writes that equal documents share. Each
value starts with a tag for its kind, and sequences start with their length.
-/

namespace IssueTracker.Json

/-- One write to a hasher. A text ends with a byte that no text contains. -/
inductive Write where
  | byte (value : UInt8)
  | word (value : UInt64)
  | length (value : Nat)
  | text (value : String)
  deriving DecidableEq, Repr

mutual

/-- The writes for a document. -/
def feed : Json → List Write
  | .null => [.byte 0]
  | .bool b => [.byte 1, .byte (if b then 1 else 0)]
  | .num n => [.byte 2, .word n.pattern]
  | .str s => [.byte 3, .text s]
  | .arr items => .byte 4 :: .length items.length :: feedItems items
  | .obj members => .byte 5 :: .length members.length :: feedMembers members

/-- The writes for each item in turn. -/
def feedItems : List Json → List Write
  | [] => []
  | item :: rest => feed item ++ feedItems rest

/-- The writes for each key and its value in turn. -/
def feedMembers : List (String × Json) → List Write
  | [] => []
  | (key, value) :: rest => .text key :: (feed value ++ feedMembers rest)

end

end IssueTracker.Json
