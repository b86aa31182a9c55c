import IssueTracker.Json.Reader
import IssueTracker.Proofs.Table
/-!
# Documents in order

A document is in order when every object in it lists its members in ascending order of their keys.
Every document that is read from a text is, and so is every object that is put together from members
that are.
-/

namespace IssueTracker.Json

/-- Every object in the document lists its members in ascending order of their keys. -/
inductive Ordered : Json → Prop
  | null : Ordered .null
  | bool (value : Bool) : Ordered (.bool value)
  | num (value : Number) : Ordered (.num value)
  | str (value : String) : Ordered (.str value)
  | arr {items : List Json} (items_ordered : ∀ item ∈ items, Ordered item) : Ordered (.arr items)
  | obj {members : List (String × Json)} (ascending : Table.Ascending members)
      (members_ordered : ∀ member ∈ members, Ordered member.2) : Ordered (.obj members)

/-! ## Objects -/

theorem ordered_ofMembers {members : List (String × Json)} (h : ∀ member ∈ members, Ordered member.2) :
    Ordered (ofMembers members) :=
  .obj (Table.ascending_ofEntries members) fun member hmember => h member (Table.mem_of_mem_ofEntries hmember)

theorem Ordered.get? {doc value : Json} {key : String} (h : doc.Ordered) (hvalue : doc.get? key = some value) :
    value.Ordered := by
  cases h with
  | obj hascending hmembers => exact hmembers (key, value) ((Table.get?_eq_some_iff hascending.nodup).1 hvalue)
  | _ => cases hvalue

/-! ## Reading -/

namespace Reader

/-- What comes of reading a number, if anything, is one. -/
def GivesNumber (r : Option (Json × List Char)) : Prop := ∀ doc rest, r = some (doc, rest) → ∃ n, doc = .num n

theorem givesNumber_none : GivesNumber none := fun _ _ h => by cases h

theorem givesNumber_some (n : Number) (rest : List Char) : GivesNumber (some (.num n, rest)) :=
  fun _ _ h => ⟨n, (Prod.mk.inj (Option.some.inj h)).1.symm⟩

theorem givesNumber_finish (negative : Bool) (sig : Nat) (e : Int) (cs : List Char) :
    GivesNumber (finish negative sig e cs) := by
  intro doc rest h
  obtain ⟨x, -, heq⟩ := Option.map_eq_some_iff.1 h
  exact ⟨_, (Prod.mk.inj heq).1.symm⟩

theorem givesNumber_exponent (negative : Bool) (sig : Nat) (e : Int) (cs : List Char) :
    GivesNumber (exponent negative sig e cs) := by
  unfold exponent
  grind [givesNumber_none, givesNumber_finish]

theorem givesNumber_floatTail (negative : Bool) (sig : Nat) (e : Int) (cs : List Char) :
    GivesNumber (floatTail negative sig e cs) := by
  unfold floatTail
  grind [givesNumber_exponent, givesNumber_finish]

theorem givesNumber_fraction (negative : Bool) (sig : Nat) (e : Int) (cs : List Char) :
    GivesNumber (fraction negative sig e cs) := by
  unfold fraction
  grind [givesNumber_floatTail, givesNumber_none]

theorem givesNumber_integerTail (negative : Bool) (sig : Nat) (cs : List Char) :
    GivesNumber (integerTail negative sig cs) := by
  unfold integerTail
  grind [givesNumber_exponent, givesNumber_some, givesNumber_fraction]

theorem givesNumber_longIntegerTail (negative : Bool) (sig : Nat) (cs : List Char) :
    GivesNumber (longIntegerTail negative sig cs) := by
  unfold longIntegerTail
  grind [givesNumber_fraction, givesNumber_floatTail]

theorem givesNumber_unsigned (negative : Bool) (cs : List Char) : GivesNumber (unsigned negative cs) := by
  unfold unsigned
  grind [givesNumber_none, givesNumber_integerTail, givesNumber_longIntegerTail]

theorem givesNumber_number (cs : List Char) : GivesNumber (number cs) := by
  unfold number
  split <;> exact givesNumber_unsigned _ _

/-- Whatever a reader gives is in order. -/
def KeepsOrder (value : Step) : Prop := ∀ cs doc rest, value cs = some (doc, rest) → doc.Ordered

theorem KeepsOrder.itemsTail {value : Step} (hvalue : KeepsOrder value) {steps : Nat} {acc items : List Json}
    {cs rest : List Char} (hacc : ∀ item ∈ acc, item.Ordered)
    (h : Reader.itemsTail value steps acc cs = some (items, rest)) : ∀ item ∈ items, item.Ordered := by
  induction steps generalizing acc cs with
  | zero => cases h
  | succ steps ih =>
    rw [Reader.itemsTail] at h
    split at h
    · cases h
    · rename_i item ahead hitem
      have hcons : ∀ x ∈ item :: acc, x.Ordered := List.forall_mem_cons.2 ⟨hvalue _ _ _ hitem, hacc⟩
      split at h
      · exact ih hcons h
      · obtain ⟨rfl, -⟩ := Prod.mk.inj (Option.some.inj h)
        exact hcons
      · cases h

theorem KeepsOrder.membersTail {value : Step} (hvalue : KeepsOrder value) {steps : Nat}
    {acc members : List (String × Json)} {cs rest : List Char} (hacc : ∀ member ∈ acc, member.2.Ordered)
    (h : Reader.membersTail value steps acc cs = some (members, rest)) :
    ∀ member ∈ members, member.2.Ordered := by
  induction steps generalizing acc cs with
  | zero => cases h
  | succ steps ih =>
    unfold Reader.membersTail at h
    split at h
    · split at h
      · cases h
      · rename_i key ahead hkey
        split at h
        · split at h
          · cases h
          · rename_i item ahead hitem
            have hcons : ∀ member ∈ (key, item) :: acc, member.2.Ordered :=
              List.forall_mem_cons.2 ⟨hvalue _ _ _ hitem, hacc⟩
            split at h
            · exact ih hcons h
            · obtain ⟨rfl, -⟩ := Prod.mk.inj (Option.some.inj h)
              exact hcons
            · cases h
        · cases h
    · cases h

theorem KeepsOrder.array {value : Step} (hvalue : KeepsOrder value) : KeepsOrder (array value) := by
  intro cs doc rest h
  unfold Reader.array at h
  split at h
  · obtain ⟨rfl, -⟩ := Prod.mk.inj (Option.some.inj h)
    exact .arr fun item hitem => absurd hitem List.not_mem_nil
  · obtain ⟨⟨items, ahead⟩, hitems, heq⟩ := Option.map_eq_some_iff.1 h
    obtain ⟨rfl, -⟩ := Prod.mk.inj heq
    have hall := hvalue.itemsTail (fun item hitem => absurd hitem List.not_mem_nil) hitems
    exact .arr fun item hitem => hall item (List.mem_reverse.1 hitem)

theorem KeepsOrder.object {value : Step} (hvalue : KeepsOrder value) : KeepsOrder (object value) := by
  intro cs doc rest h
  unfold Reader.object at h
  split at h
  · obtain ⟨rfl, -⟩ := Prod.mk.inj (Option.some.inj h)
    exact .obj .nil fun member hmember => absurd hmember List.not_mem_nil
  · obtain ⟨⟨members, ahead⟩, hmembers, heq⟩ := Option.map_eq_some_iff.1 h
    obtain ⟨rfl, -⟩ := Prod.mk.inj heq
    have hall := hvalue.membersTail (fun member hmember => absurd hmember List.not_mem_nil) hmembers
    exact ordered_ofMembers fun member hmember => hall member (List.mem_reverse.1 hmember)

theorem ordered_of_map {α : Type} {r : Option α} {give : α → Json × List Char} {doc : Json} {rest : List Char}
    (hgive : ∀ x, (give x).1.Ordered) (h : r.map give = some (doc, rest)) : doc.Ordered := by
  obtain ⟨x, -, heq⟩ := Option.map_eq_some_iff.1 h
  have hx := hgive x
  rwa [heq] at hx

/-- The kind of value is told by the first character; only arrays and objects have values inside. -/
theorem keepsOrder_value_of {depth : Nat} (hinner : ∀ inner, depth = inner + 1 → KeepsOrder (value inner)) :
    KeepsOrder (value depth) := by
  intro cs doc rest h
  unfold Reader.value at h
  split at h
  case h_1 => exact ordered_of_map (fun _ => .null) h
  case h_2 => exact ordered_of_map (fun _ => .bool true) h
  case h_3 => exact ordered_of_map (fun _ => .bool false) h
  case h_4 => exact ordered_of_map (fun _ => .str _) h
  case h_5 => exact (hinner _ rfl).array _ _ _ h
  case h_6 => exact (hinner _ rfl).object _ _ _ h
  case h_7 | h_8 => cases h
  case h_9 =>
    obtain ⟨n, rfl⟩ := givesNumber_number _ doc rest h
    exact .num n

theorem keepsOrder_value (depth : Nat) : KeepsOrder (value depth) := by
  induction depth with
  | zero => exact keepsOrder_value_of fun inner hinner => by cases hinner
  | succ depth ih =>
    refine keepsOrder_value_of fun inner hinner => ?_
    cases hinner
    exact ih

end Reader

/-- Every document that is read is in order. -/
theorem ordered_of_parse? {text : String} {doc : Json} (h : parse? text = some doc) : doc.Ordered := by
  unfold parse? at h
  split at h
  · rename_i read rest hread
    split at h
    · cases h
      exact Reader.keepsOrder_value maxDepth _ _ _ hread
    · cases h
  · cases h

end IssueTracker.Json
