import IssueTracker.Proofs.Url.Authority
import Mathlib.Data.List.TakeWhile
/-!
# Web addresses

What reading the address of a web server gives, what more text behind the address changes, and where
a reference leads that is resolved against an address with a closed path.
-/

namespace IssueTracker.Url

/-! ## Blanks -/

/-- The end of a text without what does not count. -/
def cleanEnd (cs : List Char) : List Char := ((cs.reverse.dropWhile (·.val ≤ 0x20)).reverse).filter (!isIgnored ·)

theorem isIgnored_of_lt {c : Char} (hc : 0x20 < c.val) : isIgnored c = false := by
  simp only [isIgnored, Bool.or_eq_false_iff, decide_eq_false_iff_not]
  refine ⟨⟨?_, ?_⟩, ?_⟩ <;> (rintro rfl; exact absurd hc (by decide))

theorem cleanEnd_cons {c : Char} (hc : 0x20 < c.val) (cs : List Char) : cleanEnd (c :: cs) = c :: cleanEnd cs := by
  have hstop : (decide (c.val ≤ 0x20)) = false := by simpa using hc
  rw [cleanEnd, List.reverse_cons, dropWhile_append_stop (p := (·.val ≤ 0x20)) hstop, List.reverse_append]
  simp [cleanEnd, isIgnored_of_lt hc]

/-- The start of a text without what does not count. -/
def cleanStart (cs : List Char) : List Char := (cs.dropWhile (·.val ≤ 0x20)).filter (!isIgnored ·)

/-- What comes before and behind a character that counts is cleaned by itself. -/
theorem clean_append {c : Char} (hc : 0x20 < c.val) (cs tail : List Char) :
    clean (cs ++ c :: tail) = cleanStart cs ++ c :: cleanEnd tail := by
  have hstop : (decide (c.val ≤ 0x20)) = false := by simpa using hc
  unfold clean
  dsimp only
  rw [dropWhile_append_stop (p := (·.val ≤ 0x20)) hstop, List.reverse_append, List.reverse_cons, List.append_assoc,
    List.singleton_append, dropWhile_append_stop (p := (·.val ≤ 0x20)) hstop, List.reverse_append, List.reverse_cons,
    List.reverse_reverse, List.append_assoc, List.singleton_append, List.filter_append,
    List.filter_cons_of_pos (by rw [isIgnored_of_lt hc]; rfl)]
  rfl

theorem mem_of_mem_cleanStart {cs : List Char} {c : Char} (h : c ∈ cleanStart cs) : c ∈ cs :=
  (List.dropWhile_sublist _).subset (List.mem_filter.1 h).1

theorem clean_of_all {cs : List Char} (h : ∀ c ∈ cs, 0x20 < c.val) : clean cs = cs := by
  have hstop : ∀ c ∈ cs, decide (c.val ≤ 0x20) = false := fun c hc => by simpa using h c hc
  have hleft : cs.dropWhile (·.val ≤ 0x20) = cs := by
    cases cs with
    | nil => rfl
    | cons c cs => exact List.dropWhile_cons_of_neg (by rw [hstop c List.mem_cons_self]; decide)
  have hright : cs.reverse.dropWhile (·.val ≤ 0x20) = cs.reverse := by
    rcases List.eq_nil_or_concat cs with rfl | ⟨more, c, rfl⟩
    · rfl
    · rw [List.concat_eq_append, List.reverse_append, List.reverse_singleton, List.singleton_append]
      exact List.dropWhile_cons_of_neg (by rw [hstop c (by simp)]; decide)
  unfold clean
  dsimp only
  rw [hleft, hright, List.reverse_reverse]
  exact List.filter_eq_self.2 fun c hc => by rw [isIgnored_of_lt (h c hc)]; rfl

/-! ## Parts that stay -/

section WithRest

variable (u : Url) (rest : List Char)

@[simp]
theorem scheme_withRest : (withRest u rest).scheme = u.scheme := by
  unfold withRest
  split
  · dsimp only
    split <;> rfl
  · rfl
  · rfl

@[simp]
theorem authority_withRest : (withRest u rest).authority = u.authority := by
  unfold withRest
  split
  · dsimp only
    split <;> rfl
  · rfl
  · rfl

@[simp]
theorem path_withRest : (withRest u rest).path = u.path := by
  unfold withRest
  split
  · dsimp only
    split <;> rfl
  · rfl
  · rfl

end WithRest

/-! ## Schemes -/

/-- What is read up to a character that the text has does not change with what comes behind. -/
theorem takeWhile_append_of_ne {p : Char → Bool} {cs : List Char} (h : cs.dropWhile p ≠ []) (tail : List Char) :
    (cs ++ tail).takeWhile p = cs.takeWhile p := by
  induction cs with
  | nil => exact absurd rfl h
  | cons c cs ih =>
    rw [List.cons_append, List.takeWhile_cons, List.takeWhile_cons]
    split
    · rename_i hc
      rw [List.dropWhile_cons_of_pos hc] at h
      rw [ih h]
    · rfl

theorem dropWhile_append_of_ne {p : Char → Bool} {cs : List Char} (h : cs.dropWhile p ≠ []) (tail : List Char) :
    (cs ++ tail).dropWhile p = cs.dropWhile p ++ tail := by
  rw [List.dropWhile_append, if_neg (by simpa using h)]

theorem splitScheme_append {cs scheme rest : List Char} (h : splitScheme cs = some (scheme, rest)) (tail : List Char) :
    splitScheme (cs ++ tail) = some (scheme, rest ++ tail) ∧ rest <:+ cs := by
  unfold splitScheme at h
  split at h
  · rename_i c cs
    split at h
    · rename_i halpha
      split at h
      · rename_i more hmore
        obtain ⟨rfl, rfl⟩ := Prod.mk.inj (Option.some.inj h)
        have hne : (c :: cs).dropWhile isSchemeChar ≠ [] := hmore ▸ List.cons_ne_nil ':' more
        refine ⟨?_, (List.suffix_cons ':' more).trans (hmore ▸ List.dropWhile_suffix isSchemeChar)⟩
        have htake := takeWhile_append_of_ne hne tail
        have hdrop := dropWhile_append_of_ne hne tail
        rw [List.cons_append] at htake hdrop ⊢
        rw [hmore] at hdrop
        simp only [splitScheme, halpha, if_true, hdrop, htake, List.cons_append]
      · cases h
    · cases h
  · cases h

/-- A scheme is followed by a colon before any slash. -/
theorem splitScheme_eq_none {cs : List Char} (h : ':' ∉ cs.takeWhile (· ≠ '/')) : splitScheme cs = none := by
  unfold splitScheme
  split
  · rename_i c cs
    split
    · split
      · rename_i rest hrest
        exfalso
        have hsplit := List.takeWhile_append_dropWhile (p := isSchemeChar) (l := c :: cs)
        rw [hrest] at hsplit
        refine h ?_
        rw [← hsplit, List.takeWhile_append_of_pos]
        · simp
        · intro d hd
          have hscheme := List.mem_takeWhile_imp hd
          refine decide_eq_true ?_
          rintro rfl
          exact absurd hscheme (by decide)
      · rfl
    · rfl
  · rfl

theorem scheme_afterSlashes {scheme cs : List Char} {u : Url} (h : afterSlashes scheme cs = .ok u) :
    u.scheme = scheme := by
  unfold afterSlashes at h
  simp only [bind, Except.bind] at h
  split at h
  · cases h
  · split at h
    · cases h
    · split at h
      · cases h
      · rw [← Except.ok.inj h, scheme_withRest]

theorem scheme_parseOther {scheme cs : List Char} {u : Url} (h : parseOther scheme cs = .ok u) :
    u.scheme = scheme := by
  unfold parseOther at h
  split at h
  · exact scheme_afterSlashes h
  · rw [← Except.ok.inj h, scheme_withRest]
  · rw [← Except.ok.inj h, scheme_withRest]

theorem scheme_parseFile {cs : List Char} {u : Url} (h : parseFile none cs = .ok u) :
    u.scheme = "file".toList := by
  have hpath : ∀ base, (filePath base cs).scheme = "file".toList := fun base => scheme_withRest _ _
  unfold parseFile at h
  split at h
  · split at h
    · split at h
      · split at h
        · unfold fileAfterSlashes at h
          simp only [bind, Except.bind] at h
          split at h
          · cases h
          · rw [← Except.ok.inj h, scheme_withRest]
        · exact Except.ok.inj h ▸ hpath []
      · exact Except.ok.inj h ▸ hpath []
    · exact Except.ok.inj h ▸ hpath ['/']
  · exact Except.ok.inj h ▸ scheme_withRest _ _

/-! ## Paths -/

/-- What of a path stands behind the slash of its root, written or not. -/
def belowRoot : List Char → List Char
  | '/' :: rest => rest
  | '\\' :: rest => rest
  | cs => cs

theorem parsePathStart_special {r : PathRules} (hr : r.kind = .special) (stands : Bool) (cs : List Char) :
    parsePathStart r stands cs =
      ⟨(walk [] (r.pieces (belowRoot cs))).text, stands, (belowRoot cs).dropWhile (!r.ends ·)⟩ := by
  have hread : ∀ rest, parsePath r ['/'] stands rest =
      ⟨(walk [] (r.pieces rest)).text, stands, rest.dropWhile (!r.ends ·)⟩ :=
    fun rest => parsePath_dirText hr stands rest fun _ hdir => absurd hdir List.not_mem_nil
  unfold parsePathStart
  rw [hr, if_pos (by rfl)]
  split
  · rename_i c rest
    split
    · rename_i hslash
      rcases hslash with rfl | rfl <;> exact hread rest
    · rename_i hslash
      rw [not_or] at hslash
      have hkept : belowRoot (c :: rest) = c :: rest := by
        unfold belowRoot
        split
        · rename_i heq
          exact absurd (List.cons.inj heq).1 hslash.1
        · rename_i heq
          exact absurd (List.cons.inj heq).1 hslash.2
        · rfl
      rw [hread, hkept]
  · exact hread []

/-- The path of a URL of the web is that of what follows its authority. -/
theorem path_onAuthority {scheme : List Char} (hs : SchemeKind.of scheme = .special) (a : Authority)
    (rest : List Char) :
    (onAuthority scheme a rest).path = (walk [] (PathRules.pieces ⟨.special, true⟩ (belowRoot rest))).text := by
  rw [onAuthority, path_withRest, hs, parsePathStart_special rfl]

theorem settled_walk_root (delimited : Bool) (cs : List Char) :
    (walk [] (PathRules.pieces ⟨.special, delimited⟩ cs)).Settled :=
  settled_walk (fun _ hdir => absurd hdir List.not_mem_nil) (kept_pieces rfl cs)

/-! ## Reading -/

theorem parse_eq {text : String} {scheme rest : List Char}
    (hsplit : splitScheme (clean text.toList) = some (scheme, rest))
    (hs : SchemeKind.of scheme = .special) :
    parse text = afterSlashes scheme (rest.dropWhile fun c => c = '/' || c = '\\') := by
  simp only [parse, resolve, hsplit, parseAfterScheme, hs]

/-- A URL with one of the schemes of the web is read from an authority behind slashes. -/
theorem exists_of_parse {text : String} {u : Url} (h : parse text = .ok u) (hkind : u.kind = .special) :
    ∃ rest, splitScheme (clean text.toList) = some (u.scheme, rest) ∧
      afterSlashes u.scheme (rest.dropWhile fun c => c = '/' || c = '\\') = .ok u := by
  cases hsplit : splitScheme (clean text.toList) with
  | none =>
    simp only [parse, resolve, hsplit] at h
    cases h
  | some found =>
    obtain ⟨scheme, rest⟩ := found
    cases hs : SchemeKind.of scheme with
    | special =>
      rw [parse_eq hsplit hs] at h
      obtain rfl := scheme_afterSlashes h
      exact ⟨rest, rfl, h⟩
    | file =>
      simp only [parse, resolve, hsplit, parseAfterScheme, hs] at h
      have hfile : u.kind = .file := by rw [kind, scheme_parseFile h]; rfl
      rw [hfile] at hkind
      cases hkind
    | other =>
      simp only [parse, resolve, hsplit, parseAfterScheme, hs] at h
      rw [kind, scheme_parseOther h, hs] at hkind
      cases hkind

/-- A URL with one of the schemes of the web has an authority, and its path leads through names that are read as
themselves. -/
theorem exists_trail {text : String} {u : Url} (h : parse text = .ok u) (hkind : u.kind = .special) :
    u.authority.isSome = true ∧ ∃ t : Trail, t.Settled ∧ u.path = t.text := by
  obtain ⟨rest, -, hafter⟩ := exists_of_parse h hkind
  obtain ⟨a, behind, hu, -⟩ := afterSlashes_append hkind hafter
  have hauthority : (onAuthority u.scheme a behind).authority = some a := authority_withRest _ _
  refine ⟨?_, _, settled_walk_root true (belowRoot behind), ?_⟩
  · rw [hu, hauthority]
    rfl
  · conv => lhs; rw [hu]
    exact path_onAuthority hkind a behind

/-- More text behind a URL of the web goes behind what follows its authority. -/
theorem parse_append {cs : List Char} {c : Char} (hc : 0x20 < c.val) {u : Url} (hkind : u.kind = .special)
    (h : parse (String.ofList (cs ++ [c])) = .ok u) :
    ∃ a rest, u = onAuthority u.scheme a rest ∧ rest <:+ cleanStart cs ++ [c] ∧
      ∀ tail, Delimited (cleanEnd tail) →
        parse (String.ofList (cs ++ c :: tail)) = .ok (onAuthority u.scheme a (rest ++ cleanEnd tail)) := by
  obtain ⟨rest, hsplit, hafter⟩ := exists_of_parse h hkind
  rw [String.toList_ofList] at hsplit
  obtain ⟨a, behind, hu, hbehind, hmore⟩ := afterSlashes_append hkind hafter
  have hne := ne_nil_of_afterSlashes hkind hafter
  rw [clean_append hc] at hsplit
  have hsuffix : behind <:+ cleanStart cs ++ [c] :=
    (hbehind.trans (List.dropWhile_suffix _)).trans (splitScheme_append hsplit []).2
  refine ⟨a, behind, hu, hsuffix, fun tail htail => ?_⟩
  have hsplit' : splitScheme (clean (String.ofList (cs ++ c :: tail)).toList) =
      some (u.scheme, rest ++ cleanEnd tail) := by
    rw [String.toList_ofList, clean_append hc]
    have hmore := (splitScheme_append hsplit (cleanEnd tail)).1
    rwa [List.append_assoc] at hmore
  rw [parse_eq hsplit' hkind, dropWhile_append_of_ne hne]
  exact hmore _ htail

/-! ## Closing a path -/

/-- Completing the path of a URL of the web only adds the slash. -/
theorem setPath_closed {u : Url} {t : Trail} (hkind : u.kind = .special) (hauthority : u.authority.isSome = true)
    (ht : t.Settled) (hpath : u.path = t.text) (hopen : u.path.getLast? ≠ some '/') :
    u.setPath (u.path ++ ['/']) = { u with path := closePath u.path } := by
  have hbase : u.canBeABase = true := by rw [canBeABase, hauthority, Bool.true_or]
  have hclosed : u.path ++ ['/'] = closePath u.path := (if_neg hopen).symm
  have hnames : ∀ piece ∈ t.closed ++ [[]], Settled piece := by
    simpa [or_imp, forall_and] using ⟨ht.closed, settled_nil⟩
  have htext : closePath u.path = '/' :: Text.joinWith ['/'] (t.closed ++ [[]]) := by
    rw [hpath, closePath_text ht.name.slashFree, dirText, ← flatMap_eq_joinWith, List.append_nil]
  have hwalk : walk [] (PathRules.pieces ⟨.special, false⟩ (Text.joinWith ['/'] (t.closed ++ [[]]))) =
      ⟨t.closed, []⟩ := by
    rw [pieces_joinWith (by simp) fun piece hpiece => (hnames piece hpiece).kept, walk_settled ht.closed settled_nil,
      List.nil_append]
  unfold setPath
  rw [if_pos hbase, hclosed, hkind, parsePathStart_special rfl]
  congr 1
  rw [htext, belowRoot, hwalk, Trail.text, List.append_nil, dirText, ← flatMap_eq_joinWith, List.append_nil]

/-! ## References -/

/-- An empty reference leads to the address without its fragment. -/
theorem join_empty {u : Url} (hkind : u.kind = .special) (hauthority : u.authority.isSome = true) :
    u.join "" = .ok { u with fragment := none } := by
  have hbase : u.canBeABase = true := by rw [canBeABase, hauthority, Bool.true_or]
  have hfile : ¬u.kind = .file := by rw [hkind]; decide
  change (if !u.canBeABase then _ else if u.kind = .file then _ else parseRelative u [] : Except UrlError Url) = _
  rw [hbase, if_neg (by decide), if_neg hfile]
  rfl

/-- A reference without a scheme, to a name or below one, leads on from the directories of the address. -/
theorem join_dirText {u : Url} {dirs : List (List Char)} (hkind : u.kind = .special)
    (hauthority : u.authority.isSome = true) (hpath : u.path = dirText dirs) (hdirs : ∀ dir ∈ dirs, '/' ∉ dir)
    {text : String} {c : Char} {cs : List Char} (htext : clean text.toList = c :: cs)
    (hc : c ≠ '/' ∧ c ≠ '\\' ∧ c ≠ '?' ∧ c ≠ '#') (hcolon : ':' ∉ (c :: cs).takeWhile (· ≠ '/')) :
    u.join text = .ok (withRest { u with path := (walk dirs (PathRules.pieces ⟨.special, true⟩ (c :: cs))).text }
      ((c :: cs).dropWhile (!PathRules.ends ⟨.special, true⟩ ·))) := by
  have hscheme := splitScheme_eq_none hcolon
  have hbase : u.canBeABase = true := by rw [canBeABase, hauthority, Bool.true_or]
  have hfile : ¬u.kind = .file := by rw [hkind]; decide
  have hslash : ((c = '/' || c = '\\' : Bool) = true) = False := by simp [hc]
  have hkept : (popSegment u.kind u.path.reverse).reverse = dirText dirs := by
    rw [hkind, popSegment_special, hpath, toLastSlash_dirText, List.reverse_reverse]
  have hne : dirText dirs ≠ [] := List.cons_ne_nil _ _
  have hread := parsePath_dirText (r := ⟨.special, true⟩) rfl true (c :: cs) hdirs
  unfold join resolve
  dsimp only
  rw [htext, hscheme]
  dsimp only
  split
  · rename_i heq
    exact absurd (List.cons.inj heq).1 hc.2.2.2
  · rw [hbase, if_neg (by decide), if_neg hfile]
    unfold parseRelative
    dsimp only
    split
    · rename_i heq
      cases heq
    · rename_i heq
      exact absurd (List.cons.inj heq).1 hc.2.2.1
    · rename_i heq
      exact absurd (List.cons.inj heq).1 hc.2.2.2
    · rename_i heq
      obtain ⟨rfl, rfl⟩ := List.cons.inj heq
      rw [hkept, if_neg hne, hkind, hread]
      simp only [hslash, if_false]

end IssueTracker.Url
