import IssueTracker.Proofs.Json.Equality
import IssueTracker.Proofs.Text.Utf8
/-!
# What feeds tell apart

A feed tells its document but for the numbers, of which it tells the 64-bit patterns, and it tells where the
document ends. This also holds where texts are fed byte by byte: no byte of a text is the one that ends it.
-/

namespace IssueTracker

/-- A pattern, as an integer, has itself for its pattern. -/
theorem Number.pattern_int_pattern (n : Number) : (Number.int n.pattern.toNat).pattern = n.pattern := by
  have hlt : n.pattern.toNat < Nat.pow 2 64 := n.pattern.toNat_lt
  rw [pattern, ← Int.natCast_emod, Int.toNat_natCast, Nat.mod_eq_of_lt hlt, UInt64.ofNat_toNat]

namespace Json

/-! ## Writes spelled out -/

/-- A write as it reaches a hasher that knows no texts: their bytes, and one byte that ends them. -/
def Write.spelled : Write → List Write
  | .text value => (Url.utf8 value.toList).map .byte ++ [.byte 0xff]
  | w => [w]

/-- Two lists that go on after the same mark are the same up to it, if neither has it before. -/
theorem append_mark_inj {α : Type} {mark : α} {xs ys s t : List α} (hx : mark ∉ xs) (hy : mark ∉ ys)
    (h : xs ++ mark :: s = ys ++ mark :: t) : xs = ys ∧ s = t := by
  induction xs generalizing ys with
  | nil =>
    cases ys with
    | nil => exact ⟨rfl, (List.cons.inj h).2⟩
    | cons y ys => exact absurd ((List.cons.inj h).1 ▸ List.mem_cons_self) hy
  | cons x xs ih =>
    cases ys with
    | nil => exact absurd ((List.cons.inj h).1 ▸ List.mem_cons_self) hx
    | cons y ys =>
      obtain ⟨rfl, htail⟩ := List.cons.inj h
      obtain ⟨rfl, hrest⟩ := ih (List.not_mem_of_not_mem_cons hx) (List.not_mem_of_not_mem_cons hy) htail
      exact ⟨rfl, hrest⟩

/-- A text ends where its mark stands. -/
theorem Write.spelled_text_inj {x y : String} {s t : List Write}
    (h : spelled (.text x) ++ s = spelled (.text y) ++ t) : x = y ∧ s = t := by
  have hmark (z : String) : Write.byte 0xff ∉ (Url.utf8 z.toList).map Write.byte := by
    intro hmem
    obtain ⟨b, hb, heq⟩ := List.mem_map.1 hmem
    exact Url.end_notMem_utf8 _ (Write.byte.inj heq ▸ hb)
  simp only [spelled, List.append_assoc, List.singleton_append] at h
  obtain ⟨hbytes, rfl⟩ := append_mark_inj (hmark x) (hmark y) h
  have hutf8 := (List.map_inj_right fun _ _ => Write.byte.inj).1 hbytes
  exact ⟨String.toList_injective (Url.utf8_injective hutf8), rfl⟩

/-! ## Numbers as their patterns -/

mutual

/-- The document with each number replaced by what stands for it in a feed. -/
def patterned : Json → Json
  | .null => .null
  | .bool b => .bool b
  | .num n => .num (.int n.pattern.toNat)
  | .str s => .str s
  | .arr items => .arr (patternedItems items)
  | .obj members => .obj (patternedMembers members)

/-- Each item with its numbers replaced. -/
def patternedItems : List Json → List Json
  | [] => []
  | item :: rest => patterned item :: patternedItems rest

/-- Each member with its numbers replaced. -/
def patternedMembers : List (String × Json) → List (String × Json)
  | [] => []
  | (key, value) :: rest => (key, patterned value) :: patternedMembers rest

end

/-! ## Reading a feed back -/

/-- The writes for a document, spelled out. -/
def spelledFeed (doc : Json) : List Write := doc.feed.flatMap Write.spelled

theorem spelledFeed_str (x : String) : spelledFeed (.str x) = .byte 3 :: Write.spelled (.text x) := by
  simp [spelledFeed, feed, Write.spelled]

theorem spelledFeed_arr (items : List Json) :
    spelledFeed (.arr items) = .byte 4 :: .length items.length :: (feedItems items).flatMap Write.spelled := by
  simp [spelledFeed, feed, Write.spelled]

theorem spelledFeed_obj (members : List (String × Json)) :
    spelledFeed (.obj members) =
      .byte 5 :: .length members.length :: (feedMembers members).flatMap Write.spelled := by
  simp [spelledFeed, feed, Write.spelled]

mutual

/-- Writes that start with those for a document tell the document and what follows. Documents of different
kinds differ in the first write, their tag. -/
theorem spelledFeed_inj : ∀ (a b : Json) {s t : List Write},
    a.spelledFeed ++ s = b.spelledFeed ++ t → a.patterned = b.patterned ∧ s = t
  | .null, b, s, t, h => by
    cases b with
    | null => exact ⟨rfl, by simpa [spelledFeed, feed, Write.spelled] using h⟩
    | _ => simp [spelledFeed, feed, Write.spelled] at h
  | .bool x, b, s, t, h => by
    cases b with
    | bool y =>
      cases x <;> cases y <;> simp_all [spelledFeed, feed, Write.spelled]
    | _ => simp [spelledFeed, feed, Write.spelled] at h
  | .num m, b, s, t, h => by
    cases b with
    | num n =>
      obtain ⟨hpattern, hrest⟩ : m.pattern = n.pattern ∧ s = t := by
        simpa [spelledFeed, feed, Write.spelled] using h
      exact ⟨by rw [patterned, patterned, hpattern], hrest⟩
    | _ => simp [spelledFeed, feed, Write.spelled] at h
  | .str x, b, s, t, h => by
    cases b with
    | str y =>
      rw [spelledFeed_str, spelledFeed_str] at h
      obtain ⟨rfl, hrest⟩ := Write.spelled_text_inj (List.cons.inj h).2
      exact ⟨rfl, hrest⟩
    | _ => simp [spelledFeed, feed, Write.spelled] at h
  | .arr as, b, s, t, h => by
    cases b with
    | arr bs =>
      simp only [spelledFeed_arr, List.cons_append, List.cons.injEq, true_and, Write.length.injEq] at h
      obtain ⟨hitems, hrest⟩ := spelledItems_inj as bs h.1 h.2
      exact ⟨by rw [patterned, patterned, hitems], hrest⟩
    | _ => simp [spelledFeed, feed, Write.spelled] at h
  | .obj as, b, s, t, h => by
    cases b with
    | obj bs =>
      simp only [spelledFeed_obj, List.cons_append, List.cons.injEq, true_and, Write.length.injEq] at h
      obtain ⟨hmembers, hrest⟩ := spelledMembers_inj as bs h.1 h.2
      exact ⟨by rw [patterned, patterned, hmembers], hrest⟩
    | _ => simp [spelledFeed, feed, Write.spelled] at h

theorem spelledItems_inj : ∀ (as bs : List Json) {s t : List Write}, as.length = bs.length →
    (feedItems as).flatMap Write.spelled ++ s = (feedItems bs).flatMap Write.spelled ++ t →
      patternedItems as = patternedItems bs ∧ s = t
  | [], [], s, t, _, h => ⟨rfl, by simpa [feedItems] using h⟩
  | a :: as, b :: bs, s, t, hlength, h => by
    simp only [feedItems, List.flatMap_append, List.append_assoc] at h
    obtain ⟨hitem, hitems⟩ := spelledFeed_inj a b h
    obtain ⟨hitems, hrest⟩ := spelledItems_inj as bs (Nat.succ.inj hlength) hitems
    exact ⟨by rw [patternedItems, patternedItems, hitem, hitems], hrest⟩

theorem spelledMembers_inj : ∀ (as bs : List (String × Json)) {s t : List Write}, as.length = bs.length →
    (feedMembers as).flatMap Write.spelled ++ s = (feedMembers bs).flatMap Write.spelled ++ t →
      patternedMembers as = patternedMembers bs ∧ s = t
  | [], [], s, t, _, h => ⟨rfl, by simpa [feedMembers] using h⟩
  | (key, a) :: as, (key', b) :: bs, s, t, hlength, h => by
    simp only [feedMembers, List.flatMap_cons, List.flatMap_append, List.append_assoc] at h
    obtain ⟨hkey, hmember⟩ := Write.spelled_text_inj h
    obtain ⟨hvalue, hmembers⟩ := spelledFeed_inj a b hmember
    obtain ⟨hmembers, hrest⟩ := spelledMembers_inj as bs (Nat.succ.inj hlength) hmembers
    exact ⟨by rw [patternedMembers, patternedMembers, hkey, hvalue, hmembers], hrest⟩

end

/-! ## What is left of numbers -/

theorem patternedItems_eq_map (items : List Json) : patternedItems items = items.map patterned := by
  induction items with
  | nil => rfl
  | cons item rest ih => rw [patternedItems, ih, List.map_cons]

theorem patternedMembers_eq_map (members : List (String × Json)) :
    patternedMembers members = members.map fun member => (member.1, member.2.patterned) := by
  induction members with
  | nil => rfl
  | cons member rest ih => rw [patternedMembers, ih, List.map_cons]

mutual

/-- A pattern is fed like its number. -/
theorem feed_patterned : ∀ doc : Json, doc.patterned.feed = doc.feed
  | .null => rfl
  | .bool _ => rfl
  | .num n => by rw [patterned, feed, feed, Number.pattern_int_pattern]
  | .str _ => rfl
  | .arr items => by
    rw [patterned, feed, feed, feedItems_patterned items, patternedItems_eq_map, List.length_map]
  | .obj members => by
    rw [patterned, feed, feed, feedMembers_patterned members, patternedMembers_eq_map, List.length_map]

theorem feedItems_patterned : ∀ items : List Json, feedItems (patternedItems items) = feedItems items
  | [] => rfl
  | item :: rest => by
    rw [patternedItems, feedItems, feedItems, feed_patterned item, feedItems_patterned rest]

theorem feedMembers_patterned : ∀ members : List (String × Json),
    feedMembers (patternedMembers members) = feedMembers members
  | [] => rfl
  | (_, value) :: rest => by
    rw [patternedMembers, feedMembers, feedMembers, feed_patterned value, feedMembers_patterned rest]

end

theorem Ordered.patterned {doc : Json} (h : doc.Ordered) : doc.patterned.Ordered := by
  induction h with
  | null => exact .null
  | bool value => exact .bool value
  | num value => exact .num _
  | str value => exact .str value
  | arr _ ih =>
    rw [Json.patterned, patternedItems_eq_map]
    exact .arr (List.forall_mem_map.2 ih)
  | obj hascending _ ih =>
    rw [Json.patterned, patternedMembers_eq_map]
    exact .obj (List.pairwise_map.2 hascending) (List.forall_mem_map.2 ih)

/-! ## Separation -/

theorem feed_eq_iff (a b : Json) : a.feed = b.feed ↔ a.patterned = b.patterned := by
  constructor
  · intro h
    exact (spelledFeed_inj a b (s := []) (t := []) (by rw [spelledFeed, spelledFeed, h])).1
  · intro h
    rw [← feed_patterned a, h, feed_patterned]

/-- No feed is the beginning of another, not even spelled out. -/
theorem feed_eq_of_prefix {a b : Json} (h : a.spelledFeed <+: b.spelledFeed) : a.feed = b.feed := by
  obtain ⟨rest, hrest⟩ := h
  exact (feed_eq_iff a b).2 (spelledFeed_inj a b (hrest.trans (List.append_nil _).symm)).1

/-- Feeds are equal exactly when the documents are equal once every number is replaced by the 64-bit pattern that is
fed for it, in whatever order members are listed. No feed is a proper beginning of another, whether texts are written
whole or byte by byte. -/
theorem feed_separates (a b : Json) :
    (a.feed = b.feed ↔ a.patterned = b.patterned) ∧
      (a.Ordered → b.Ordered → (a.feed = b.feed ↔ a.patterned.Same b.patterned)) ∧
      (a.feed <+: b.feed → a.feed = b.feed) ∧ (a.spelledFeed <+: b.spelledFeed → a.feed = b.feed) := by
  refine ⟨feed_eq_iff a b, fun ha hb => ⟨fun h => ?_, fun h => ?_⟩, fun h => ?_, feed_eq_of_prefix⟩
  · rw [← (feed_eq_iff a b).1 h]
    exact (beq_iff_same ha.patterned ha.patterned).1 BEq.rfl
  · rw [← feed_patterned a, ← feed_patterned b]
    exact feed_of_beq ((beq_iff_same ha.patterned hb.patterned).2 h)
  · obtain ⟨rest, hrest⟩ := h
    exact feed_eq_of_prefix ⟨rest.flatMap Write.spelled, by rw [spelledFeed, spelledFeed, ← hrest, List.flatMap_append]⟩

/-- Integers of different signs have one pattern, and so have a float and an integer. -/
theorem feed_separates_patterns :
    let a := ofMembers [("count", .num (.int (-1))), ("ratio", .num (.float (Binary64.neg ⟨0⟩)))]
    let b := ofMembers [("ratio", .num 0), ("count", .num (.int 18446744073709551615))]
    a.Ordered ∧ b.Ordered ∧ a.feed <+: b.feed ∧ a.spelledFeed <+: b.spelledFeed ∧ a.feed = b.feed ∧
      a.patterned.Same b.patterned := by
  intro a b
  have ha : a.Ordered := ordered_ofMembers (by simp [Ordered.num])
  have hb : b.Ordered := ordered_ofMembers (by simp [Ordered.num])
  have hfeed : a.feed = b.feed := by decide +kernel
  have hsame : a.spelledFeed = b.spelledFeed := by rw [spelledFeed, spelledFeed, hfeed]
  have hspelled : a.spelledFeed <+: b.spelledFeed := hsame ▸ List.prefix_rfl
  exact ⟨ha, hb, hfeed ▸ List.prefix_rfl, hspelled, (feed_separates a b).2.2.2 hspelled,
    ((feed_separates a b).2.1 ha hb).1 hfeed⟩

end Json

end IssueTracker
