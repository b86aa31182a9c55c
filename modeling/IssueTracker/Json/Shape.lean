import IssueTracker.Document
/-!
# Documents of a known shape

Reading records: a record is an object, or an array of its fields in their order. Fields
that are not known are ignored in an object; an array may not be longer than the record.
-/

namespace IssueTracker.Json

/-- The fields of a record. -/
def fields (names : List String) : Json → Except TrackerError (List (Option Json))
  | .obj members => .ok (names.map fun name => Table.get? name members)
  | .arr items =>
    if items.length ≤ names.length then
      .ok (items.map some ++ List.replicate (names.length - items.length) none)
    else .error .json
  | _ => .error .json

/-- The text of a field that must be a string. -/
def text : Option Json → Except TrackerError String
  | some (.str s) => .ok s
  | _ => .error .json

/-- The text of a field that may be absent or `null`. -/
def text? : Option Json → Except TrackerError (Option String)
  | none => .ok none
  | some .null => .ok none
  | some (.str s) => .ok (some s)
  | _ => .error .json

/-- The name of a choice without content: a string, or an object whose only member is `null`. -/
def choice? : Json → Option String
  | .str name => some name
  | .obj [(name, .null)] => some name
  | _ => none

end IssueTracker.Json
