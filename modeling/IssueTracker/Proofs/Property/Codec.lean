import IssueTracker.Proofs.Tracker.Fields
import IssueTracker.Proofs.UniqueKeys
/-!
# Reading properties back

What the properties of an issue are, one by one, and what becomes of a value that is written to the field
of a property and read from there. Where properties and fields correspond one to one, a property is what
its field shows. Most values are shown as they were written; a choice without a parent and nothing at all
are not shown.
-/

namespace IssueTracker

open Tracker (fieldOf?)

/-! ## Values of fields -/

/-- What a field of a kind shows of its value. -/
def FieldKind.shown? (kind : FieldKind) (value : Json) : Option Json :=
  if value.isNull then none else PropertyCodec.decodeValue? value kind

/-- What is read back of a value that is written to a property of a kind, next to the issue's other
properties. -/
def FieldKind.kept? (kind : FieldKind) (value : Json) (properties : Table Json) : Option Json :=
  match kind with
  | .plain => if value.isNull then none else some value
  | .named => some value
  | .select => some value
  | .namedList =>
    match value with
    | .arr items => some (.arr items)
    | single => some (.arr [single])
  | .cascading parent =>
    match Table.get? parent properties with
    | none => none
    | some .null => none
    | some (.arr []) => none
    | some _ => some value

/-- The two stages of writing, one after the other. -/
def FieldMapping.written (m : FieldMapping) (value : Json) (properties : Table Json) : Json :=
  ((⟨m.field, PropertyCodec.encodeValue value m.kind, m.kind⟩ : EncodedField).finish properties).1

namespace PropertyCodec

theorem get?_named (value : Json) : (named value).get? "name" = some value := by
  simp [named, Json.get?_ofMembers]

theorem filterMap_named (items : List Json) : (items.map named).filterMap (·.get? "name") = items := by
  induction items with
  | nil => rfl
  | cons item rest ih => rw [List.map_cons, List.filterMap_cons_some (get?_named item), ih]

end PropertyCodec

/-- What is read back is what the field shows of what was written there. -/
theorem FieldMapping.shown?_written (m : FieldMapping) (value : Json) (properties : Table Json) :
    m.kind.shown? (m.written value properties) = m.kind.kept? value properties := by
  obtain ⟨property, field, kind⟩ := m
  cases kind with
  | plain => rfl
  | named => exact PropertyCodec.get?_named value
  | select =>
    show (Json.ofMembers [("value", value)]).get? "value" = some value
    simp [Json.get?_ofMembers]
  | namedList =>
    have hlist (items : List Json) :
        FieldKind.namedList.shown? (.arr (items.map PropertyCodec.named)) = some (.arr items) := by
      show some (Json.arr ((items.map PropertyCodec.named).filterMap (·.get? "name"))) = _
      rw [PropertyCodec.filterMap_named]
    cases value with
    | arr items => exact hlist items
    | null => exact hlist [.null]
    | bool b => exact hlist [.bool b]
    | num n => exact hlist [.num n]
    | str text => exact hlist [.str text]
    | obj members => exact hlist [.obj members]
  | cascading parent =>
    -- With an option to hang on the choice stands below it, without one there is nothing below.
    have hchild (option : Json) : (FieldKind.cascading parent).shown?
        (.ofMembers [("value", option), ("child", .ofMembers [("value", value)])]) = some value := by
      show (Json.ofMembers [("value", option), ("child", .ofMembers [("value", value)])]).pointer
        (.ofKeys ["child", "value"]) = some value
      simp (disch := decide) [Json.pointer_ofKeys, Json.follow_cons, Json.get?_ofMembers]
    have hnone : (FieldKind.cascading parent).shown? (.ofMembers [("value", value)]) = none := by
      show (Json.ofMembers [("value", value)]).pointer (.ofKeys ["child", "value"]) = none
      simp (disch := decide) [Json.pointer_ofKeys, Json.follow_cons, Json.get?_ofMembers]
    unfold written EncodedField.finish FieldKind.kept?
    dsimp only
    cases Table.get? parent properties with
    | none => exact hnone
    | some choice =>
      cases choice with
      | null => exact hnone
      | arr items =>
        cases items with
        | nil => exact hnone
        | cons item rest => exact hchild item
      | bool b => exact hchild _
      | num n => exact hchild _
      | str text => exact hchild _
      | obj members => exact hchild _

/-! ## Properties -/

theorem Snapshot.ascending_properties (codec : PropertyCodec) (s : Snapshot) :
    Table.Ascending (s.properties codec) := by
  unfold properties
  split
  · exact List.Pairwise.nil
  · exact Table.ascending_ofEntries _

/-- Properties and fields correspond one to one. -/
structure PropertyCodec.OneToOne (codec : PropertyCodec) : Prop where
  properties : (codec.map FieldMapping.property).Nodup
  fields : (codec.map FieldMapping.field).Nodup

namespace PropertyCodec.OneToOne

variable {codec : PropertyCodec} (h : codec.OneToOne) {m m' : FieldMapping} {name field : String} {value shown : Json}
include h

theorem byProperty?_eq_some : codec.byProperty? name = some m ↔ m ∈ codec ∧ m.property = name :=
  UniqueKeys.find?_eq_some_iff FieldMapping.property h.properties

theorem byField?_eq_some : codec.byField? field = some m ↔ m ∈ codec ∧ m.field = field :=
  UniqueKeys.find?_eq_some_iff FieldMapping.field h.fields

theorem eq_of_property (hm : m ∈ codec) (hm' : m' ∈ codec) (heq : m'.property = m.property) : m' = m :=
  List.inj_on_of_nodup_map h.properties hm' hm heq

theorem eq_of_field (hm : m ∈ codec) (hm' : m' ∈ codec) (heq : m'.field = m.field) : m' = m :=
  List.inj_on_of_nodup_map h.fields hm' hm heq

/-- A field that shows a value holds the property of its mapping. -/
theorem decode?_eq_some : codec.decode? field value = some (name, shown) ↔
    ∃ m ∈ codec, m.field = field ∧ m.property = name ∧ m.kind.shown? value = some shown := by
  unfold decode? FieldKind.shown?
  constructor
  · intro hdecode
    obtain ⟨m, hfind, hdecode⟩ := Option.bind_eq_some_iff.1 hdecode
    obtain ⟨hm, hfield⟩ := h.byField?_eq_some.1 hfind
    split at hdecode
    · cases hdecode
    · rename_i hnull
      obtain ⟨decoded, hdecoded, heq⟩ := Option.bind_eq_some_iff.1 hdecode
      cases heq
      exact ⟨m, hm, hfield, rfl, by rw [if_neg hnull, hdecoded]⟩
  · rintro ⟨m, hm, hfield, rfl, hshown⟩
    refine Option.bind_eq_some_iff.2 ⟨m, h.byField?_eq_some.2 ⟨hm, hfield⟩, ?_⟩
    split at hshown
    · cases hshown
    · rename_i hnull
      rw [if_neg hnull, hshown]
      rfl

/-- No two fields show one property. -/
theorem nodup_decoded {members : Table Json} (hmembers : Table.Ascending members) :
    ((members.filterMap fun (field, value) => codec.decode? field value).map Prod.fst).Nodup := by
  refine List.pairwise_map.2 (List.Pairwise.filterMap _ ?_ hmembers)
  rintro ⟨field, value⟩ ⟨field', value'⟩ hlt ⟨name, shown⟩ hdecode ⟨name', shown'⟩ hdecode' heq
  obtain ⟨m, hm, hfield, hname, -⟩ := h.decode?_eq_some.1 hdecode
  obtain ⟨m', hm', hfield', hname', -⟩ := h.decode?_eq_some.1 hdecode'
  -- A property has one mapping, and the mapping one field, but the fields come one after the other.
  have hsame : m = m' := h.eq_of_property hm' hm (by rw [hname, hname']; exact heq)
  have hfields : field = field' := by rw [← hfield, ← hfield', hsame]
  exact String.lt_irrefl field' (hfields ▸ hlt)

theorem get?_properties {key : String} {s : Snapshot} (hs : Tracker.Filed key s.document) (name : String) :
    Table.get? name (s.properties codec) =
      (codec.byProperty? name).bind fun m => (fieldOf? s.document m.field).bind m.kind.shown? := by
  obtain ⟨members, hfields, hmembers⟩ := hs.fields
  have hfield (field : String) : fieldOf? s.document field = Table.get? field members := by
    rw [fieldOf?, Json.getD, hfields]
    rfl
  have hproperties : s.properties codec =
      Table.ofEntries (members.filterMap fun (field, value) => codec.decode? field value) := by
    rw [Snapshot.properties, hfields]
    rfl
  have hnodup := h.nodup_decoded hmembers
  rw [hproperties, Table.get?_ofEntries hnodup]
  apply Option.ext
  intro shown
  simp only [hfield, Table.get?_eq_some_iff hnodup, List.mem_filterMap, Option.bind_eq_some_iff, h.decode?_eq_some,
    h.byProperty?_eq_some, Table.get?_eq_some_iff hmembers.nodup]
  constructor
  · rintro ⟨⟨field, value⟩, hmem, m, hm, rfl, hname, hshown⟩
    exact ⟨m, ⟨hm, hname⟩, value, hmem, hshown⟩
  · rintro ⟨m, ⟨hm, hname⟩, value, hmem, hshown⟩
    exact ⟨(m.field, value), hmem, m, hm, rfl, hname, hshown⟩

/-- Where the field of one property is set and those of the others stay, the property alone changes. -/
theorem properties_eq_assign {key : String} {s s' : Snapshot} (hs : Tracker.Filed key s.document)
    (hs' : Tracker.Filed key s'.document) (hm : m ∈ codec)
    (hfields : ∀ m' ∈ codec, fieldOf? s'.document m'.field =
      if m'.field = m.field then some value else fieldOf? s.document m'.field) :
    s'.properties codec = (s.properties codec).assign m.property (m.kind.shown? value) := by
  refine (s'.ascending_properties _).ext ((s.ascending_properties _).assign _ _) fun other => ?_
  rw [Table.get?_assign, h.get?_properties hs', h.get?_properties hs]
  by_cases hname : other = m.property
  · subst hname
    rw [if_pos rfl, h.byProperty?_eq_some.2 ⟨hm, rfl⟩, Option.bind_some, hfields m hm, if_pos rfl, Option.bind_some]
  · -- Another property has another field.
    rw [if_neg hname]
    cases hfind : codec.byProperty? other with
    | none => rfl
    | some m' =>
      obtain ⟨hm', rfl⟩ := h.byProperty?_eq_some.1 hfind
      have hother : m'.field ≠ m.field := fun heq => hname (by rw [h.eq_of_field hm hm' heq])
      rw [Option.bind_some, Option.bind_some, hfields m' hm', if_neg hother]

end PropertyCodec.OneToOne

end IssueTracker
