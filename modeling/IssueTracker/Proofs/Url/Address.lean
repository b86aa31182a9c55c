import IssueTracker.Proofs.Url.Web
/-!
# Ways to write an address

A slash at the end of an address, a query and a fragment make another URL, but one with the same
scheme and authority and, once its path is completed, the same path.
-/

namespace IssueTracker.Url

/-- Whether a text ends in a blank or control, which is no part of the address that it writes. -/
def endsBlank (text : String) : Bool := text.toList.getLast?.any (·.val ≤ 0x20)

/-- Texts that write one address: with or without a slash at the end, a query and a fragment. -/
inductive SameAddress (text : String) : String → Prop
  | slash (hplain : '?' ∉ text.toList ∧ '#' ∉ text.toList)
      (hopen : text.toList.getLast? ≠ some '/' ∧ text.toList.getLast? ≠ some '\\') : SameAddress text (text ++ "/")
  | query (query : String) : SameAddress text (text ++ "?" ++ query)
  | fragment (fragment : String) : SameAddress text (text ++ "#" ++ fragment)

/-! ## Pieces at the end -/

section Pieces

variable {r : PathRules}

theorem encodeChar_ne_nil (set : Char → Bool) (c : Char) : encodeChar set c ≠ [] := by
  rw [encodeChar]
  split
  · obtain ⟨b, bytes, hbytes⟩ := List.exists_cons_of_ne_nil (String.utf8EncodeChar_ne_nil (c := c))
    rw [percentChar, hbytes]
    exact List.cons_ne_nil _ _
  · exact List.cons_ne_nil c []

/-- A slash at the end is a piece more. -/
theorem pieces_concat_slash {cs : List Char} (h : ∀ c ∈ cs, r.ends c = false) :
    r.pieces (cs ++ ['/']) = r.pieces cs ++ [[]] := by
  have hends : ∀ c ∈ cs, (!r.ends c) = true := fun c hc => by rw [h c hc]; rfl
  have hslash : r.ends '/' = false := by simp [PathRules.ends]
  rw [PathRules.pieces, PathRules.pieces, List.takeWhile_append_of_pos hends, List.takeWhile_eq_self_iff.2 hends,
    List.takeWhile_cons_of_pos (by rw [hslash]; rfl), List.takeWhile_nil, List.map_append, List.map_singleton,
    if_pos (by simp [PathRules.separates]), Text.splitOn_append_sep, List.map_append]
  rfl

/-- Text that does not end in a separator ends in a piece that is not empty. -/
theorem exists_pieces_concat {c : Char} (hc : r.separates c = false) (hend : r.ends c = false) {cs : List Char}
    (h : ∀ d ∈ cs, r.ends d = false) : ∃ ps piece, r.pieces (cs ++ [c]) = ps ++ [piece] ∧ piece ≠ [] := by
  induction cs with
  | nil =>
    refine ⟨[], encodeChar inPathSet c, ?_, encodeChar_ne_nil _ _⟩
    rw [List.nil_append, pieces_cons hc hend, pieces_nil, List.modifyHead_cons, List.append_nil]
    rfl
  | cons d cs ih =>
    obtain ⟨ps, piece, hpieces, hpiece⟩ := ih fun e he => h e (List.mem_cons_of_mem d he)
    rw [List.cons_append]
    by_cases hd : r.separates d = true
    · exact ⟨[] :: ps, piece, by rw [pieces_separator hd, hpieces, List.cons_append], hpiece⟩
    · rw [Bool.not_eq_true] at hd
      rw [pieces_cons hd (h d List.mem_cons_self), hpieces]
      cases ps with
      | nil => exact ⟨[], encodeChar inPathSet d ++ piece, rfl, List.append_ne_nil_of_right_ne_nil _ hpiece⟩
      | cons first ps => exact ⟨(encodeChar inPathSet d ++ first) :: ps, piece, rfl, hpiece⟩

theorem pieces_append_end {c : Char} (hc : r.ends c = true) (cs rest : List Char) :
    r.pieces (cs ++ c :: rest) = r.pieces cs := by
  rw [PathRules.pieces, takeWhile_append_stop (by rw [hc]; rfl), PathRules.pieces]

end Pieces

theorem belowRoot_suffix (cs : List Char) : belowRoot cs <:+ cs := by
  unfold belowRoot
  split
  · exact List.suffix_cons _ _
  · exact List.suffix_cons _ _
  · exact List.suffix_rfl

theorem belowRoot_append {cs : List Char} (h : cs ≠ []) (tail : List Char) :
    belowRoot (cs ++ tail) = belowRoot cs ++ tail := by
  obtain ⟨c, cs, rfl⟩ := List.exists_cons_of_ne_nil h
  rw [List.cons_append]
  unfold belowRoot
  split
  · rename_i heq
    obtain ⟨rfl, rfl⟩ := List.cons.inj heq
    rfl
  · rename_i heq
    obtain ⟨rfl, rfl⟩ := List.cons.inj heq
    rfl
  · rename_i hslash hback
    split
    · rename_i heq
      obtain ⟨rfl, rfl⟩ := List.cons.inj heq
      exact absurd rfl (hslash _)
    · rename_i heq
      obtain ⟨rfl, rfl⟩ := List.cons.inj heq
      exact absurd rfl (hback _)
    · rfl

/-! ## The path -/

section Path

variable {scheme : List Char} {a : Authority}

theorem path_append_end (hs : SchemeKind.of scheme = .special) {c : Char} (hc : c = '?' ∨ c = '#')
    (rest tail : List Char) :
    (onAuthority scheme a (rest ++ c :: tail)).path = (onAuthority scheme a rest).path := by
  have hend : (⟨.special, true⟩ : PathRules).ends c = true := by rcases hc with rfl | rfl <;> rfl
  rw [path_onAuthority hs, path_onAuthority hs]
  by_cases hrest : rest = []
  · rw [hrest, List.nil_append]
    have hkept : belowRoot (c :: tail) = [] ++ c :: tail := by rcases hc with rfl | rfl <;> rfl
    rw [hkept, pieces_append_end hend]
    rfl
  · rw [belowRoot_append hrest, pieces_append_end hend]

/-- A slash at the end of an address that has neither a query nor a fragment completes its path. -/
theorem closePath_append_slash (hs : SchemeKind.of scheme = .special) {rest : List Char}
    (hplain : '?' ∉ rest ∧ '#' ∉ rest) (hopen : rest.getLast? ≠ some '/' ∧ rest.getLast? ≠ some '\\') :
    closePath (onAuthority scheme a (rest ++ ['/'])).path = closePath (onAuthority scheme a rest).path := by
  rw [path_onAuthority hs, path_onAuthority hs]
  rcases List.eq_nil_or_concat rest with rfl | ⟨cs, c, rfl⟩
  · rfl
  · rw [List.concat_eq_append] at hplain hopen ⊢
    have hc : c ≠ '/' ∧ c ≠ '\\' := by simpa using hopen
    obtain ⟨before, hbefore⟩ : ∃ before, belowRoot (cs ++ [c]) = before ++ [c] := by
      by_cases hcs : cs = []
      · subst hcs
        refine ⟨[], ?_⟩
        unfold belowRoot
        split <;> simp_all
      · exact ⟨belowRoot cs, belowRoot_append hcs [c]⟩
    have hends : ∀ d ∈ before ++ [c], (⟨.special, true⟩ : PathRules).ends d = false := by
      intro d hd
      have hmem : d ∈ cs ++ [c] := (belowRoot_suffix (cs ++ [c])).subset (hbefore ▸ hd)
      have hquery : d ≠ '?' := fun heq => hplain.1 (heq ▸ hmem)
      have hhash : d ≠ '#' := fun heq => hplain.2 (heq ▸ hmem)
      simp [PathRules.ends, hquery, hhash]
    have hsep : (⟨.special, true⟩ : PathRules).separates c = false := by simp [PathRules.separates, hc]
    obtain ⟨ps, piece, hpieces, hpiece⟩ := exists_pieces_concat hsep (hends c (by simp))
      fun d hd => hends d (List.mem_append_left _ hd)
    have hwalk := settled_walk_root true (before ++ [c])
    rw [hpieces] at hwalk
    rw [belowRoot_append (by simp), hbefore, pieces_concat_slash hends, hpieces, List.append_assoc,
      List.singleton_append, walk_close hpiece, closePath_text hwalk.name.slashFree]
    exact closePath_text List.not_mem_nil

end Path

/-! ## Addresses -/

/-- Text that does not end in a blank and spells a URL of the web spells, written another way, one with the same scheme,
authority and completed path. -/
theorem parse_sameAddress {text text' : String} (h : SameAddress text text')
    (hend : endsBlank text = false) {u : Url} (hu : parse text = .ok u) (hkind : u.kind = .special) :
    ∃ u', parse text' = .ok u' ∧ u'.scheme = u.scheme ∧ u'.authority = u.authority ∧
      closePath u'.path = closePath u.path := by
  rcases List.eq_nil_or_concat text.toList with hnil | ⟨cs, c, htext⟩
  · have hempty : text = "" := String.toList_injective hnil
    subst hempty
    cases hu
  · rw [List.concat_eq_append] at htext
    have hc : 0x20 < c.val := by simpa [endsBlank, htext] using hend
    have hspelled : text = String.ofList (cs ++ [c]) := by rw [← htext, String.ofList_toList]
    rw [hspelled] at hu
    obtain ⟨a, rest, ha, hrest, hmore⟩ := parse_append hc hkind hu
    have hauthority : ∀ more, (onAuthority u.scheme a more).authority = u.authority := by
      intro more
      conv => rhs; rw [ha]
      rw [onAuthority, onAuthority, authority_withRest, authority_withRest]
    have hscheme : ∀ more, (onAuthority u.scheme a more).scheme = u.scheme := fun more => scheme_withRest _ _
    have hsuffix : ∀ tail, text ++ tail = String.ofList (cs ++ c :: tail.toList) := by
      intro tail
      apply String.toList_injective
      simp [htext]
    have hbehind : ∀ {d : Char}, d = '?' ∨ d = '#' → 0x20 < d.val → ∀ more, ∃ u',
        parse (String.ofList (cs ++ c :: d :: more)) = .ok u' ∧ u'.scheme = u.scheme ∧ u'.authority = u.authority ∧
          closePath u'.path = closePath u.path := by
      intro d hd hcounts more
      have htail := hmore (d :: more) ⟨d, _, cleanEnd_cons hcounts more, .inr hd⟩
      refine ⟨_, htail, hscheme _, hauthority _, ?_⟩
      rw [cleanEnd_cons hcounts, path_append_end hkind hd, ← ha]
    cases h with
    | slash hplain hopen =>
      have hmem : ∀ d ∈ rest, d ∈ text.toList := by
        intro d hd
        rw [htext]
        rcases List.mem_append.1 (hrest.subset hd) with hd | hd
        · exact List.mem_append_left _ (mem_of_mem_cleanStart hd)
        · exact List.mem_append_right _ hd
      have hlast : ∀ d, rest.getLast? = some d → text.toList.getLast? = some d := by
        intro d hd
        obtain ⟨front, hfront⟩ := hrest
        have heq := congrArg List.getLast? hfront
        rw [List.getLast?_append, hd, List.getLast?_concat, Option.some_or] at heq
        rw [htext, List.getLast?_concat, heq]
      refine ⟨_, ?_, hscheme (rest ++ ['/']), hauthority (rest ++ ['/']), ?_⟩
      · rw [hsuffix]
        exact hmore ['/'] ⟨'/', [], rfl, .inl rfl⟩
      · conv => rhs; rw [ha]
        exact closePath_append_slash hkind ⟨fun h => hplain.1 (hmem _ h), fun h => hplain.2 (hmem _ h)⟩
          ⟨fun h => hopen.1 (hlast _ h), fun h => hopen.2 (hlast _ h)⟩
    | query query =>
      rw [String.append_assoc, hsuffix, String.toList_append]
      exact hbehind (.inl rfl) (by decide) query.toList
    | fragment fragment =>
      rw [String.append_assoc, hsuffix, String.toList_append]
      exact hbehind (.inr rfl) (by decide) fragment.toList

end IssueTracker.Url
