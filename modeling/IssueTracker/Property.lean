import IssueTracker.Json.Pointer
import IssueTracker.Warning
/-!
# Properties

Named properties and the tracker's fields that hold them. Writing takes two stages: the first
shapes a value for the kind of its field, the second concerns the site's own fields only and
may need the issue's other properties, since a cascading choice depends on its parent.
-/

namespace IssueTracker

/-- How a field holds its value. -/
inductive FieldKind where
  | plain
  | named
  | namedList
  | select
  | cascading (parent : String)
  deriving DecidableEq, Repr

/-- A property and the field that holds it. -/
structure FieldMapping where
  property : String
  field : String
  kind : FieldKind
  deriving DecidableEq, Repr

/-- A value shaped for its field. -/
structure EncodedField where
  field : String
  value : Json
  kind : FieldKind

/-- The properties that are known, in order of precedence. -/
abbrev PropertyCodec := List FieldMapping

namespace PropertyCodec

/-- The properties of every tracker. -/
def standard : PropertyCodec := [
  ⟨"issuetype", "issuetype", .named⟩,
  ⟨"priority", "priority", .named⟩,
  ⟨"components", "components", .namedList⟩,
  ⟨"fixVersions", "fixVersions", .namedList⟩,
  ⟨"versions", "versions", .namedList⟩,
  ⟨"environment", "environment", .plain⟩]

/-- The standard properties, then a site's own. -/
def withCustom (custom : List FieldMapping) : PropertyCodec := standard ++ custom

/-- The mapping of a field. -/
def byField? (codec : PropertyCodec) (field : String) : Option FieldMapping :=
  codec.find? (·.field = field)

/-- The mapping of a property. -/
def byProperty? (codec : PropertyCodec) (property : String) : Option FieldMapping :=
  codec.find? (·.property = property)

/-- The value that a field of a kind holds, unless its shape is another. -/
def decodeValue? (value : Json) : FieldKind → Option Json
  | .plain => some value
  | .named => value.get? "name"
  | .namedList => value.asArray?.map fun items => .arr (items.filterMap (·.get? "name"))
  | .select => value.get? "value"
  | .cascading _ => value.pointer (.ofKeys ["child", "value"])

/-- The property that a field holds, unless the field is unknown or unset. -/
def decode? (codec : PropertyCodec) (field : String) (value : Json) : Option (String × Json) := do
  let mapping ← codec.byField? field
  if value.isNull then none
  else
    let decoded ← decodeValue? value mapping.kind
    return (mapping.property, decoded)

/-- A value under a name. -/
def named (value : Json) : Json := .ofMembers [("name", value)]

/-- The first stage for a value. -/
def encodeValue (value : Json) : FieldKind → Json
  | .named => named value
  | .namedList =>
    match value with
    | .arr items => .arr (items.map named)
    | single => .arr [named single]
  | .plain | .select | .cascading _ => value

/-- The first stage; nothing for an unknown property. -/
def encode? (codec : PropertyCodec) (property : String) (value : Json) : Option EncodedField :=
  (codec.byProperty? property).map fun mapping =>
    ⟨mapping.field, encodeValue value mapping.kind, mapping.kind⟩

/-- The option that a cascading choice hangs on: a value, or the first of a list. -/
def parentOption? : Json → Option Json
  | .arr items => items.head?
  | .null => none
  | other => some other

end PropertyCodec

/-- The second stage, with what it reports. -/
def EncodedField.finish (encoded : EncodedField) (properties : Table Json) :
    Json × List Warning :=
  match encoded.kind with
  | .select => (.ofMembers [("value", encoded.value)], [])
  | .cascading parent =>
    match (Table.get? parent properties).bind PropertyCodec.parentOption? with
    | some option =>
      (.ofMembers [("value", option), ("child", .ofMembers [("value", encoded.value)])], [])
    | none => (.ofMembers [("value", encoded.value)], [.noParentValue])
  | _ => (encoded.value, [])

end IssueTracker
