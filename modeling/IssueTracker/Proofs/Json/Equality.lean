import IssueTracker.Json.Feed
import IssueTracker.Proofs.Json.Order
/-!
# Equality of documents

Documents are equal exactly when they are the same once every float zero is written as the positive one.
Hence equality is an equivalence, and a hasher is fed the same for equal documents. Between documents in
order it is what a reader of documents expects: the same numbers, the same items one by one, and the
same value under every key.
-/

namespace IssueTracker

/-! ## Numbers -/

namespace Number

/-- The number with the positive zero for the negative one. -/
def canonical : Number → Number
  | .int n => .int n
  | .float x => .float (if x.isZero then ⟨0⟩ else x)

theorem beq_iff_canonical (m n : Number) : (m == n) = true ↔ m.canonical = n.canonical := by
  cases m with
  | int m => cases n <;> simp [BEq.beq, canonical]
  | float x =>
    cases n with
    | int n => simp [BEq.beq, canonical]
    | float y =>
      have hzero : (⟨0⟩ : Binary64).isZero = true := by decide
      have hbits : x.bits = y.bits ↔ x = y := ⟨fun h => congrArg Binary64.mk h, congrArg Binary64.bits⟩
      simp only [BEq.beq, canonical, Bool.or_eq_true, decide_eq_true_eq, Bool.and_eq_true, hbits,
        Number.float.injEq]
      grind

theorem pattern_canonical (n : Number) : n.canonical.pattern = n.pattern := by
  cases n with
  | int n => rfl
  | float x =>
    have hzero : (⟨0⟩ : Binary64).isZero = true := by decide
    simp only [canonical, pattern]
    grind

/-- Two ways to write one number: an integer and a float are never one number, and the two float zeros are. -/
inductive Same : Number → Number → Prop
  | int (n : Int) : Same (.int n) (.int n)
  | float (x : Binary64) : Same (.float x) (.float x)
  | zeros {x y : Binary64} (left : x.isZero = true) (right : y.isZero = true) : Same (.float x) (.float y)

theorem beq_iff_same (m n : Number) : (m == n) = true ↔ m.Same n := by
  constructor
  · intro h
    cases m with
    | int m =>
      cases n with
      | int n =>
        obtain rfl : m = n := by simpa [BEq.beq] using h
        exact .int m
      | float y => simp [BEq.beq] at h
    | float x =>
      cases n with
      | int n => simp [BEq.beq] at h
      | float y =>
        rcases Bool.or_eq_true_iff.1 h with h | h
        · obtain rfl : x = y := congrArg Binary64.mk (of_decide_eq_true h)
          exact .float x
        · obtain ⟨hx, hy⟩ := Bool.and_eq_true_iff.1 h
          exact .zeros hx hy
  · intro h
    cases h with
    | int n => simp [BEq.beq]
    | float x => simp [BEq.beq]
    | zeros hx hy => simp [BEq.beq, hx, hy]

end Number

namespace Json

/-! ## One form for equal documents -/

mutual

/-- The document with the positive zero for every negative one. -/
def canonical : Json → Json
  | .null => .null
  | .bool b => .bool b
  | .num n => .num n.canonical
  | .str s => .str s
  | .arr items => .arr (canonicalItems items)
  | .obj members => .obj (canonicalMembers members)

/-- Each item with its positive zeros. -/
def canonicalItems : List Json → List Json
  | [] => []
  | item :: rest => canonical item :: canonicalItems rest

/-- Each member with its positive zeros. -/
def canonicalMembers : List (String × Json) → List (String × Json)
  | [] => []
  | (key, value) :: rest => (key, canonical value) :: canonicalMembers rest

end

mutual

theorem beq_iff_canonical : ∀ a b : Json, beq a b = true ↔ a.canonical = b.canonical
  | .null, b => by cases b <;> simp [beq, canonical]
  | .bool a, b => by cases b <;> simp [beq, canonical]
  | .num m, b => by cases b <;> simp [beq, canonical, Number.beq_iff_canonical]
  | .str a, b => by cases b <;> simp [beq, canonical]
  | .arr as, b => by cases b <;> simp [beq, canonical, beqItems_iff_canonical as]
  | .obj as, b => by cases b <;> simp [beq, canonical, beqMembers_iff_canonical as]

theorem beqItems_iff_canonical : ∀ as bs : List Json, beqItems as bs = true ↔ canonicalItems as = canonicalItems bs
  | [], bs => by cases bs <;> simp [beqItems, canonicalItems]
  | a :: as, bs => by
    cases bs <;> simp [beqItems, canonicalItems, beq_iff_canonical a, beqItems_iff_canonical as]

theorem beqMembers_iff_canonical : ∀ as bs : List (String × Json),
    beqMembers as bs = true ↔ canonicalMembers as = canonicalMembers bs
  | [], bs => by cases bs <;> simp [beqMembers, canonicalMembers]
  | (k, a) :: as, bs => by
    cases bs <;> simp [beqMembers, canonicalMembers, beq_iff_canonical a, beqMembers_iff_canonical as]

end

/-- Equality of documents is an equivalence. -/
instance : EquivBEq Json where
  rfl := (beq_iff_canonical _ _).2 rfl
  symm h := (beq_iff_canonical _ _).2 ((beq_iff_canonical _ _).1 h).symm
  trans h h' := (beq_iff_canonical _ _).2 (((beq_iff_canonical _ _).1 h).trans ((beq_iff_canonical _ _).1 h'))

/-! ## What a hasher is fed -/

theorem length_canonicalItems (items : List Json) : (canonicalItems items).length = items.length := by
  induction items with
  | nil => rfl
  | cons item rest ih => simp [canonicalItems, ih]

theorem length_canonicalMembers (members : List (String × Json)) :
    (canonicalMembers members).length = members.length := by
  induction members with
  | nil => rfl
  | cons member rest ih => simp [canonicalMembers, ih]

mutual

theorem feed_canonical : ∀ doc : Json, doc.canonical.feed = doc.feed
  | .null => rfl
  | .bool _ => rfl
  | .num n => by simp [canonical, feed, Number.pattern_canonical]
  | .str _ => rfl
  | .arr items => by simp [canonical, feed, length_canonicalItems, feedItems_canonical items]
  | .obj members => by simp [canonical, feed, length_canonicalMembers, feedMembers_canonical members]

theorem feedItems_canonical : ∀ items : List Json, feedItems (canonicalItems items) = feedItems items
  | [] => rfl
  | item :: rest => by simp [canonicalItems, feedItems, feed_canonical item, feedItems_canonical rest]

theorem feedMembers_canonical : ∀ members : List (String × Json),
    feedMembers (canonicalMembers members) = feedMembers members
  | [] => rfl
  | (_, value) :: rest => by
    simp [canonicalMembers, feedMembers, feed_canonical value, feedMembers_canonical rest]

end

/-- Equal documents are fed alike. -/
theorem feed_of_beq {a b : Json} (h : (a == b) = true) : a.feed = b.feed := by
  rw [← feed_canonical a, ← feed_canonical b, (beq_iff_canonical a b).1 h]

/-! ## The same document -/

/-- Two ways to write one document: the order of an object's members does not matter. -/
inductive Same : Json → Json → Prop
  | null : Same .null .null
  | bool (value : Bool) : Same (.bool value) (.bool value)
  | num {m n : Number} (same : m.Same n) : Same (.num m) (.num n)
  | str (value : String) : Same (.str value) (.str value)
  | arr {as bs : List Json} (items : List.Forall₂ Same as bs) : Same (.arr as) (.arr bs)
  | obj {as bs : List (String × Json)}
      (members : ∀ key, Option.Rel Same (Table.get? key as) (Table.get? key bs)) : Same (.obj as) (.obj bs)

theorem beqItems_iff_forall₂ (as bs : List Json) : beqItems as bs = true ↔ List.Forall₂ (· == ·) as bs := by
  induction as generalizing bs with
  | nil => cases bs <;> simp [beqItems]
  | cons a as ih =>
    cases bs with
    | nil => simp [beqItems]
    | cons b bs =>
      rw [beqItems, Bool.and_eq_true, List.forall₂_cons, ih]
      rfl

theorem beqMembers_iff_forall₂ (as bs : List (String × Json)) :
    beqMembers as bs = true ↔ List.Forall₂ (fun a b => a.1 = b.1 ∧ (a.2 == b.2) = true) as bs := by
  induction as generalizing bs with
  | nil => cases bs <;> simp [beqMembers]
  | cons a as ih =>
    cases bs with
    | nil => simp [beqMembers]
    | cons b bs =>
      rw [beqMembers, Bool.and_eq_true, Bool.and_eq_true, beq_iff_eq, List.forall₂_cons, ih]
      rfl

theorem forall₂_congr_mem {α β : Type} {R S : α → β → Prop} {as : List α} {bs : List β}
    (h : ∀ a ∈ as, ∀ b ∈ bs, (R a b ↔ S a b)) : List.Forall₂ R as bs ↔ List.Forall₂ S as bs := by
  induction as generalizing bs with
  | nil => cases bs <;> simp
  | cons a as ih =>
    cases bs with
    | nil => simp
    | cons b bs =>
      rw [List.forall₂_cons, List.forall₂_cons, h a List.mem_cons_self b List.mem_cons_self,
        ih fun a' ha b' hb => h a' (List.mem_cons_of_mem _ ha) b' (List.mem_cons_of_mem _ hb)]

theorem beq_arr (as bs : List Json) : (arr as == arr bs) = beqItems as bs := rfl

theorem beq_obj (as bs : List (String × Json)) : (obj as == obj bs) = beqMembers as bs := rfl

/-- Documents in order are equal exactly when they are the same. -/
theorem beq_iff_same {a b : Json} (ha : a.Ordered) (hb : b.Ordered) : (a == b) = true ↔ a.Same b := by
  induction ha generalizing b with
  | null =>
    cases hb with
    | null => exact iff_of_true rfl .null
    | _ => exact ⟨fun h => (Bool.false_ne_true h).elim, fun h => by cases h⟩
  | bool value =>
    cases hb with
    | bool other =>
      refine ⟨fun h => ?_, fun h => ?_⟩
      · obtain rfl : value = other := beq_iff_eq.1 h
        exact .bool value
      · cases h
        exact BEq.rfl
    | _ => exact ⟨fun h => (Bool.false_ne_true h).elim, fun h => by cases h⟩
  | num m =>
    cases hb with
    | num n =>
      refine ⟨fun h => .num ((Number.beq_iff_same m n).1 h), fun h => ?_⟩
      cases h with
      | num same => exact (Number.beq_iff_same m n).2 same
    | _ => exact ⟨fun h => (Bool.false_ne_true h).elim, fun h => by cases h⟩
  | str text =>
    cases hb with
    | str other =>
      refine ⟨fun h => ?_, fun h => ?_⟩
      · obtain rfl : text = other := beq_iff_eq.1 h
        exact .str text
      · cases h
        exact BEq.rfl
    | _ => exact ⟨fun h => (Bool.false_ne_true h).elim, fun h => by cases h⟩
  | @arr as has ih =>
    cases hb with
    | @arr bs hbs =>
      have hitems : List.Forall₂ (· == ·) as bs ↔ List.Forall₂ Same as bs :=
        forall₂_congr_mem fun a ha b hb => ih a ha (hbs b hb)
      rw [beq_arr, beqItems_iff_forall₂, hitems]
      refine ⟨.arr, fun h => ?_⟩
      cases h with
      | arr items => exact items
    | _ => exact ⟨fun h => (Bool.false_ne_true h).elim, fun h => by cases h⟩
  | @obj as hascending has ih =>
    cases hb with
    | @obj bs hbscending hbs =>
      have hmembers : List.Forall₂ (fun a b => a.1 = b.1 ∧ (a.2 == b.2) = true) as bs ↔
          List.Forall₂ (fun a b => a.1 = b.1 ∧ a.2.Same b.2) as bs :=
        forall₂_congr_mem fun a ha b hb => and_congr_right fun _ => ih a ha (hbs b hb)
      rw [beq_obj, beqMembers_iff_forall₂, hmembers, hascending.forall₂_iff hbscending]
      refine ⟨.obj, fun h => ?_⟩
      cases h with
      | obj members => exact members
    | _ => exact ⟨fun h => (Bool.false_ne_true h).elim, fun h => by cases h⟩

end Json

end IssueTracker
