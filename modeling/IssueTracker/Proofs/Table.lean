import Mathlib.Data.List.Sort
import IssueTracker.Table
/-!
# Tables in order

A table that was made by setting keys lists them in ascending order, so that its entries are what
look-up finds and look-up tells tables apart. Of entries whose keys are all different the table keeps
every one.
-/

namespace IssueTracker.Table

variable {α β : Type}

/-- The keys are listed in ascending order. -/
def Ascending (table : Table α) : Prop := table.Pairwise fun a b => a.1 < b.1

theorem mem_insert {key : String} {value : α} {table : Table α} {entry : String × α}
    (h : entry ∈ insert key value table) : entry = (key, value) ∨ entry ∈ table := by
  induction table with
  | nil => exact .inl (List.mem_singleton.1 h)
  | cons first rest ih =>
    rw [insert] at h
    split at h
    · exact (List.mem_cons.1 h).imp_right (List.mem_cons_of_mem _)
    · split at h
      · exact List.mem_cons.1 h
      · rcases List.mem_cons.1 h with rfl | h
        · exact .inr List.mem_cons_self
        · exact (ih h).imp_right (List.mem_cons_of_mem _)

theorem Ascending.insert {table : Table α} (h : Ascending table) (key : String) (value : α) :
    Ascending (insert key value table) := by
  induction table with
  | nil => exact List.pairwise_singleton _ _
  | cons first rest ih =>
    obtain ⟨k, v⟩ := first
    obtain ⟨hfirst, hrest⟩ := List.pairwise_cons.1 h
    rw [Table.insert]
    split
    · subst key
      exact List.pairwise_cons.2 ⟨hfirst, hrest⟩
    · rename_i hne
      split
      · rename_i hlt
        refine List.pairwise_cons.2 ⟨fun other hother => ?_, h⟩
        rcases List.mem_cons.1 hother with rfl | hother
        · exact hlt
        · exact String.lt_trans hlt (hfirst other hother)
      · rename_i hnot
        have hgt : k < key := Std.lt_of_le_of_ne (String.not_lt.1 hnot) (Ne.symm hne)
        refine List.pairwise_cons.2 ⟨fun other hother => ?_, ih hrest⟩
        rcases mem_insert hother with rfl | hother
        · exact hgt
        · exact hfirst other hother

theorem ascending_ofEntries (entries : List (String × α)) : Ascending (ofEntries entries) := by
  -- The induction is for any table to start from.
  have hfold : ∀ table, Ascending table →
      Ascending (entries.foldl (fun table entry => insert entry.1 entry.2 table) table) := by
    induction entries with
    | nil => exact fun table h => h
    | cons entry rest ih => exact fun table h => ih _ (h.insert entry.1 entry.2)
  exact hfold [] .nil

theorem mem_of_mem_ofEntries {entries : List (String × α)} {entry : String × α} (h : entry ∈ ofEntries entries) :
    entry ∈ entries := by
  have hfold : ∀ table, entry ∈ entries.foldl (fun table entry => insert entry.1 entry.2 table) table →
      entry ∈ table ∨ entry ∈ entries := by
    clear h
    induction entries with
    | nil => exact fun table h => .inl h
    | cons first rest ih =>
      intro table h
      rcases ih _ h with h | h
      · rcases mem_insert h with rfl | h
        · exact .inr List.mem_cons_self
        · exact .inl h
      · exact .inr (List.mem_cons_of_mem _ h)
  exact (hfold [] h).resolve_left List.not_mem_nil

theorem Ascending.nodup {table : Table α} (h : Ascending table) : (table.map Prod.fst).Nodup := by
  refine List.pairwise_map.2 (h.imp fun {a b} hlt heq => ?_)
  rw [heq] at hlt
  exact String.lt_irrefl _ hlt

theorem get?_eq_none {table : Table α} {key : String} (h : key ∉ table.map Prod.fst) : get? key table = none := by
  induction table with
  | nil => rfl
  | cons first rest ih =>
    rw [List.map_cons, List.mem_cons, not_or] at h
    rw [get?, if_neg h.1, ih h.2]

/-- Where no key is listed twice, look-up finds the entries. -/
theorem get?_eq_some_iff {table : Table α} (h : (table.map Prod.fst).Nodup) {key : String} {value : α} :
    get? key table = some value ↔ (key, value) ∈ table := by
  induction table with
  | nil => simp [get?]
  | cons first rest ih =>
    obtain ⟨k, v⟩ := first
    obtain ⟨hk, hrest⟩ := List.nodup_cons.1 h
    rw [get?, List.mem_cons, Prod.mk.injEq]
    by_cases heq : key = k
    · subst key
      have hnot : (k, value) ∉ rest := fun hmem => hk (List.mem_map.2 ⟨_, hmem, rfl⟩)
      simp [hnot, eq_comm]
    · simp [heq, ih hrest]

/-- It does not matter then which of two entries would win. -/
theorem get?_ofEntries {entries : List (String × α)} (h : (entries.map Prod.fst).Nodup) (key : String) :
    get? key (ofEntries entries) = get? key entries := by
  induction entries with
  | nil => rfl
  | cons first rest ih =>
    obtain ⟨hfirst, hrest⟩ := List.nodup_cons.1 h
    rw [get?_ofEntries_cons, ih hrest, get?]
    split
    · subst key
      rw [get?_eq_none hfirst, Option.none_or]
    · exact Option.or_none

/-- Tables in order are the same when look-up finds the same in them. -/
theorem Ascending.ext {a b : Table α} (ha : Ascending a) (hb : Ascending b) (h : ∀ key, get? key a = get? key b) :
    a = b := by
  -- There is one way to list given entries in order, and look-up finds the entries.
  let precedes (x y : String × α) : Prop := x.1 < y.1
  have : Std.Irrefl precedes := ⟨fun x => String.lt_irrefl x.1⟩
  have : Std.Antisymm precedes := ⟨fun x y hxy hyx => absurd hyx (String.lt_asymm hxy)⟩
  refine List.Pairwise.eq_of_mem_iff (r := precedes) ha hb fun ⟨key, value⟩ => ?_
  rw [← get?_eq_some_iff ha.nodup, ← get?_eq_some_iff hb.nodup, h]

theorem Ascending.get?_tail {first : String × α} {rest : Table α} (h : Ascending (first :: rest)) (key : String) :
    get? key rest = if key = first.1 then none else get? key (first :: rest) := by
  obtain ⟨k, v⟩ := first
  split
  · subst key
    exact get?_eq_none (List.nodup_cons.1 h.nodup).1
  · rw [get?, if_neg ‹_›]

theorem Ascending.get?_of_lt {first : String × α} {rest : Table α} (h : Ascending (first :: rest)) {key : String}
    (hlt : key < first.1) : get? key (first :: rest) = none := by
  refine get?_eq_none fun hmem => ?_
  rw [List.map_cons, List.mem_cons] at hmem
  rcases hmem with rfl | hmem
  · exact String.lt_irrefl _ hlt
  · obtain ⟨entry, hentry, rfl⟩ := List.mem_map.1 hmem
    exact String.lt_asymm hlt ((List.pairwise_cons.1 h).1 entry hentry)

/-- Tables in order correspond entry by entry when they do look-up by look-up. -/
theorem Ascending.forall₂_iff {R : α → β → Prop} {as : Table α} {bs : Table β} (ha : Ascending as)
    (hb : Ascending bs) : List.Forall₂ (fun a b => a.1 = b.1 ∧ R a.2 b.2) as bs ↔
      ∀ key, Option.Rel R (get? key as) (get? key bs) := by
  constructor
  · intro h key
    induction h with
    | nil => exact .none
    | cons hfirst hrest ih =>
      rw [get?, get?, ← hfirst.1]
      split
      · exact .some hfirst.2
      · exact ih (List.pairwise_cons.1 ha).2 (List.pairwise_cons.1 hb).2
  · intro h
    induction as generalizing bs with
    | nil =>
      cases bs with
      | nil => exact .nil
      | cons b bs =>
        have hb := h b.1
        simp [get?] at hb
    | cons a as ih =>
      cases bs with
      | nil =>
        have ha := h a.1
        simp [get?] at ha
      | cons b bs =>
        -- The first keys are the same, since neither is less than all keys of the other table.
        have hkey : a.1 = b.1 := by
          refine String.le_antisymm (String.not_lt.1 fun hlt => ?_) (String.not_lt.1 fun hlt => ?_)
          · have hbelow := h b.1
            rw [ha.get?_of_lt hlt, get?, if_pos rfl] at hbelow
            cases hbelow
          · have hbelow := h a.1
            rw [hb.get?_of_lt hlt, get?, if_pos rfl] at hbelow
            cases hbelow
        refine .cons ⟨hkey, ?_⟩ (ih (List.pairwise_cons.1 ha).2 (List.pairwise_cons.1 hb).2 fun key => ?_)
        · have hfirst := h a.1
          rw [get?, get?, if_pos rfl, if_pos hkey] at hfirst
          exact Option.rel_some_some.1 hfirst
        · rw [ha.get?_tail, hb.get?_tail, hkey]
          split
          · exact .none
          · exact h key

/-! ## Setting or dropping a key -/

/-- The table with a value under a key, or without the key. -/
def assign (key : String) (value : Option α) (table : Table α) : Table α :=
  match value with
  | some value => insert key value table
  | none => table.filter fun entry => entry.1 ≠ key

theorem get?_assign (key other : String) (value : Option α) (table : Table α) :
    get? other (assign key value table) = if other = key then value else get? other table := by
  cases value with
  | some value => exact get?_insert key other value table
  | none =>
    induction table with
    | nil => simp [assign, get?]
    | cons first rest ih =>
      rw [assign] at ih ⊢
      by_cases hkey : first.1 = key
      · rw [List.filter_cons_of_neg (by simp [hkey]), ih, get?, hkey]
        split <;> rfl
      · rw [List.filter_cons_of_pos (by simp [hkey]), get?, get?, ih]
        by_cases hother : other = first.1
        · rw [if_pos hother, if_pos hother, if_neg (hother ▸ hkey)]
        · rw [if_neg hother, if_neg hother]

theorem Ascending.assign {table : Table α} (h : Ascending table) (key : String) (value : Option α) :
    Ascending (assign key value table) := by
  cases value with
  | some value => exact h.insert key value
  | none => exact List.Pairwise.sublist List.filter_sublist h

theorem mem_assign {key : String} {value : Option α} {table : Table α} {entry : String × α}
    (h : entry ∈ assign key value table) : some entry.2 = value ∨ entry ∈ table := by
  cases value with
  | some value => exact (mem_insert h).imp_left fun heq => congrArg (fun e => some e.2) heq
  | none => exact .inr (List.mem_of_mem_filter h)

/-! ## Changing the value under a key -/

/-- The table with the value under a key changed. -/
def modify (key : String) (change : α → α) (table : Table α) : Table α :=
  table.map fun entry => if entry.1 = key then (entry.1, change entry.2) else entry

theorem get?_modify (key other : String) (change : α → α) (table : Table α) :
    get? other (modify key change table) =
      if other = key then (get? other table).map change else get? other table := by
  induction table with
  | nil => simp [modify, get?]
  | cons first rest ih =>
    obtain ⟨k, v⟩ := first
    rw [modify, List.map_cons, ← modify]
    by_cases hk : k = key
    · rw [if_pos hk, get?, get?, ih]
      by_cases hother : other = k
      · rw [if_pos hother, if_pos hother, if_pos (hother.trans hk), Option.map_some]
      · rw [if_neg hother, if_neg hother]
    · rw [if_neg hk, get?, get?, ih]
      by_cases hother : other = k
      · rw [if_pos hother, if_pos hother, if_neg (hother ▸ hk)]
      · rw [if_neg hother, if_neg hother]

theorem modify_modify (key : String) (change again : α → α) (table : Table α) :
    modify key again (modify key change table) = modify key (again ∘ change) table := by
  rw [modify, modify, modify, List.map_map]
  refine List.map_congr_left fun entry _ => ?_
  rw [Function.comp_apply]
  by_cases hkey : entry.1 = key
  · rw [if_pos hkey, if_pos hkey, if_pos hkey, Function.comp_apply]
  · rw [if_neg hkey, if_neg hkey, if_neg hkey]

theorem modify_congr {key : String} {change again : α → α} {table : Table α}
    (h : ∀ entry ∈ table, entry.1 = key → change entry.2 = again entry.2) :
    modify key change table = modify key again table := by
  refine List.map_congr_left fun entry hentry => ?_
  split
  · rw [h entry hentry ‹_›]
  · rfl

theorem modify_id (key : String) (table : Table α) : modify key id table = table := by
  refine (List.map_congr_left fun entry _ => ?_).trans (List.map_id table)
  split <;> rfl

theorem keys_modify (key : String) (change : α → α) (table : Table α) :
    (modify key change table).map Prod.fst = table.map Prod.fst := by
  rw [modify, List.map_map]
  refine List.map_congr_left fun entry _ => ?_
  rw [Function.comp_apply]
  split <;> rfl

theorem Ascending.modify {table : Table α} (h : Ascending table) (key : String) (change : α → α) :
    Ascending (Table.modify key change table) := by
  have hkeys : ((Table.modify key change table).map Prod.fst).Pairwise (· < ·) := by
    rw [keys_modify]
    exact List.pairwise_map.2 h
  exact List.pairwise_map.1 hkeys

theorem mem_modify {key : String} {change : α → α} {table : Table α} {entry : String × α}
    (h : entry ∈ modify key change table) : ∃ old ∈ table, entry.2 = old.2 ∨ entry.2 = change old.2 := by
  obtain ⟨old, hold, rfl⟩ := List.mem_map.1 h
  refine ⟨old, hold, ?_⟩
  split
  · exact .inr rfl
  · exact .inl rfl

end IssueTracker.Table
