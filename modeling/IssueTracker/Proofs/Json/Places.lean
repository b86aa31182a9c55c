import IssueTracker.Json.Without
import IssueTracker.Proofs.Json.Equality
/-!
# One place of a document

The member at the end of a path of keys, set, replaced or dropped. Of two changes of one place only the
later shows, and a document is told by what is at a place together with all that is elsewhere.
-/

namespace IssueTracker.Json

/-- The document with a value at the end of a path of keys, or without the member there. Paths go through
objects only; where one does not lead on, nothing changes. -/
def assignPath (value : Option Json) : List String → Json → Json
  | [], doc => doc
  | [key], .obj members => .obj (Table.assign key value members)
  | key :: keys, .obj members => .obj (Table.modify key (assignPath value keys) members)
  | _ :: _, doc => doc

theorem assignPath_member (value : Option Json) (key : String) (members : List (String × Json)) :
    assignPath value [key] (.obj members) = .obj (Table.assign key value members) := rfl

theorem assignPath_below (value : Option Json) (key next : String) (keys : List String)
    (members : List (String × Json)) : assignPath value (key :: next :: keys) (.obj members) =
      .obj (Table.modify key (assignPath value (next :: keys)) members) := rfl

/-- Only an object has places below it. -/
theorem assignPath_of_not_obj (value : Option Json) (keys : List String) {doc : Json}
    (h : ∀ members, doc ≠ .obj members) : assignPath value keys doc = doc := by
  cases keys with
  | nil => rfl
  | cons key keys =>
    cases doc with
    | obj members => exact absurd rfl (h members)
    | _ => cases keys <;> rfl

/-- Going down a path: it ends here, here is no object, it names a member, or it leads on below one. -/
@[elab_as_elim]
theorem path_induction {motive : List String → Json → Prop} (here : ∀ doc, motive [] doc)
    (stuck : ∀ key keys doc, (∀ members, doc ≠ .obj members) → motive (key :: keys) doc)
    (member : ∀ key members, motive [key] (.obj members))
    (below : ∀ key next keys members, (∀ doc, motive (next :: keys) doc) →
      motive (key :: next :: keys) (.obj members)) (keys : List String) (doc : Json) : motive keys doc := by
  induction keys generalizing doc with
  | nil => exact here doc
  | cons key keys ih =>
    cases doc with
    | obj members =>
      cases keys with
      | nil => exact member key members
      | cons next keys => exact below key next keys members ih
    | _ => exact stuck key keys _ nofun

theorem erasePath_eq_assignPath (keys : List String) (doc : Json) : erasePath keys doc = assignPath none keys doc := by
  induction keys, doc using path_induction with
  | here doc => rfl
  | stuck key keys doc h =>
    rw [assignPath_of_not_obj none _ h]
    cases doc with
    | obj members => exact absurd rfl (h members)
    | _ => cases keys <;> rfl
  | member key members => rfl
  | below key next keys members ih =>
    have hbelow : erasePath (next :: keys) = assignPath none (next :: keys) := funext ih
    rw [assignPath_below, ← hbelow]
    rfl

/-! ## Order -/

variable {value other : Option Json} {doc a b : Json}

theorem Ordered.assignPath (hvalue : ∀ v ∈ value, v.Ordered) (keys : List String) (h : doc.Ordered) :
    (doc.assignPath value keys).Ordered := by
  induction keys, doc using path_induction with
  | here doc => exact h
  | stuck key keys doc hdoc => rwa [assignPath_of_not_obj value _ hdoc]
  | member key members =>
    cases h with
    | obj hascending hmembers =>
      refine .obj (hascending.assign key value) fun entry hentry => ?_
      rcases Table.mem_assign hentry with hset | hold
      · exact hvalue entry.2 hset.symm
      · exact hmembers entry hold
  | below key next keys members ih =>
    cases h with
    | obj hascending hmembers =>
      refine .obj (hascending.modify key _) fun entry hentry => ?_
      obtain ⟨old, hold, heq | heq⟩ := Table.mem_modify hentry
      · exact heq ▸ hmembers old hold
      · exact heq ▸ ih old.2 (hmembers old hold)

theorem Ordered.getPath? {found : Json} {keys : List String} (h : doc.Ordered)
    (hfound : doc.getPath? keys = some found) : found.Ordered := by
  induction keys generalizing doc with
  | nil =>
    cases hfound
    exact h
  | cons key keys ih =>
    obtain ⟨inner, hinner, hfound⟩ := Option.bind_eq_some_iff.1 hfound
    exact ih (h.get? hinner) hfound

/-! ## Changing a place twice -/

/-- Of two changes of one place the later shows. -/
theorem Ordered.assignPath_assignPath (value other : Option Json) (keys : List String) (h : doc.Ordered) :
    (doc.assignPath other keys).assignPath value keys = doc.assignPath value keys := by
  induction keys, doc using path_induction with
  | here doc => rfl
  | stuck key keys doc hdoc => rw [assignPath_of_not_obj other _ hdoc]
  | member key members =>
    cases h with
    | obj hascending hmembers =>
      rw [assignPath_member, assignPath_member, assignPath_member, Json.obj.injEq]
      refine ((hascending.assign key other).assign key value).ext (hascending.assign key value) fun name => ?_
      rw [Table.get?_assign, Table.get?_assign, Table.get?_assign]
      split <;> rfl
  | below key next keys members ih =>
    cases h with
    | obj hascending hmembers =>
      rw [assignPath_below, assignPath_below, assignPath_below, Json.obj.injEq, Table.modify_modify]
      exact Table.modify_congr fun entry hentry _ => ih entry.2 (hmembers entry hentry)

/-- Setting a place to what is there changes nothing. -/
theorem Ordered.assignPath_getPath? (keys : List String) (h : doc.Ordered) :
    doc.assignPath (doc.getPath? keys) keys = doc := by
  induction keys, doc using path_induction with
  | here doc => rfl
  | stuck key keys doc hdoc => exact assignPath_of_not_obj _ _ hdoc
  | member key members =>
    cases h with
    | obj hascending hmembers =>
      have hfound : (Json.obj members).getPath? [key] = Table.get? key members := Option.bind_fun_some _
      rw [hfound, assignPath_member, Json.obj.injEq]
      refine (hascending.assign key _).ext hascending fun name => ?_
      rw [Table.get?_assign]
      split
      · rw [‹name = key›]
      · rfl
  | below key next keys members ih =>
    cases h with
    | obj hascending hmembers =>
      rw [assignPath_below, Json.obj.injEq]
      refine (Table.modify_congr fun entry hentry hkey => ?_).trans (Table.modify_id key members)
      have hfound : Table.get? key members = some entry.2 :=
        (Table.get?_eq_some_iff hascending.nodup).2 (hkey ▸ hentry)
      have hbelow : (Json.obj members).getPath? (key :: next :: keys) = entry.2.getPath? (next :: keys) := by
        rw [Json.getPath?, Json.get?, hfound, Option.bind_some]
      rw [hbelow]
      exact ih entry.2 (hmembers entry hentry)

/-! ## Documents that are the same -/

theorem Ordered.same_self (h : doc.Ordered) : doc.Same doc := (beq_iff_same h h).1 BEq.rfl

theorem Same.assignPath (hvalue : ∀ v ∈ value, v.Ordered) (keys : List String) (h : a.Same b) :
    (a.assignPath value keys).Same (b.assignPath value keys) := by
  have hself : Option.Rel Same value value := by
    cases value with
    | none => exact .none
    | some v => exact .some (hvalue v rfl).same_self
  induction keys, a using path_induction generalizing b with
  | here doc => exact h
  | stuck key keys doc hdoc =>
    have hother : ∀ members, b ≠ .obj members := by
      rintro members rfl
      cases h
      exact hdoc _ rfl
    rwa [assignPath_of_not_obj value _ hdoc, assignPath_of_not_obj value _ hother]
  | member key as =>
    cases h with
    | obj hsame =>
      refine .obj fun name => ?_
      rw [Table.get?_assign, Table.get?_assign]
      split
      · exact hself
      · exact hsame name
  | below key next keys as ih =>
    cases h with
    | @obj _ bs hsame =>
      refine .obj fun name => ?_
      rw [Table.get?_modify, Table.get?_modify]
      split
      · have hname := hsame name
        generalize Table.get? name as = found, Table.get? name bs = found' at hname ⊢
        cases hname with
        | none => exact .none
        | some hinner => exact .some (ih _ hinner)
      · exact hsame name

end IssueTracker.Json
