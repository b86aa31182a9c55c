import Mathlib.Data.List.Induction
import IssueTracker.Proofs.Link.CommentText
/-!
# The grammar of link comments

Which comments stand for a web link, and for which one. A comment has two to four lines, the first two of which
give title and address; of the others only those count that start with one of two marks, and of those with the
same mark only the last.
-/

namespace IssueTracker.WebLink.CommentForm

variable {mark title uri text : String} {line : List Char} {lines rest rest' : List (List Char)}

/-! ## What follows a mark -/

theorem after?_eq_some_iff : after? mark line = some text ↔ line = (mark ++ text).toList := by
  rw [after?]
  split
  · rename_i hstarts
    obtain ⟨left, rfl⟩ := List.isPrefixOf_iff_prefix.1 hstarts
    rw [List.drop_left, Option.some.injEq, String.toList_append, List.append_cancel_left_eq]
    constructor
    · rintro rfl
      exact String.toList_ofList.symm
    · rintro rfl
      exact String.ofList_toList
  · rename_i hstarts
    refine iff_of_false (Option.some_ne_none text).symm ?_
    rintro rfl
    exact hstarts (List.isPrefixOf_iff_prefix.2 (String.toList_append ▸ List.prefix_append _ _))

theorem after?_eq_none_iff : after? mark line = none ↔ ¬mark.toList <+: line := by
  rw [after?]
  split
  · exact iff_of_false (Option.some_ne_none _) (not_not_intro (List.isPrefixOf_iff_prefix.1 ‹_›))
  · exact iff_of_true rfl (mt List.isPrefixOf_iff_prefix.2 ‹_›)

/-- What lines tell under a mark: what follows it in the last line that starts with it. -/
inductive LastText (mark : String) : List (List Char) → Option String → Prop where
  | absent {lines : List (List Char)} (h : ∀ line ∈ lines, ¬mark.toList <+: line) : LastText mark lines none
  | present {before after : List (List Char)} {text : String} (h : ∀ line ∈ after, ¬mark.toList <+: line) :
      LastText mark (before ++ (mark ++ text).toList :: after) (some text)

theorem LastText.lastAfter?_eq {part : Option String} (h : LastText mark lines part) :
    lastAfter? mark lines = part := by
  have hnone {lines : List (List Char)} (h : ∀ line ∈ lines, ¬mark.toList <+: line) :
      lines.filterMap (after? mark) = [] :=
    List.filterMap_eq_nil_iff.2 fun line hline => after?_eq_none_iff.2 (h line hline)
  cases h with
  | absent h => rw [lastAfter?, hnone h, List.getLast?_nil]
  | present h =>
    rw [lastAfter?, List.filterMap_append, List.filterMap_cons, after?_mark, hnone h]
    exact List.getLast?_concat

theorem lastText_lastAfter? (mark : String) (lines : List (List Char)) :
    LastText mark lines (lastAfter? mark lines) := by
  induction lines using List.reverseRecOn with
  | nil => exact .absent nofun
  | append_singleton lines line ih =>
    rw [lastAfter?, List.filterMap_append]
    cases hafter : after? mark line with
    | some text =>
      rw [List.filterMap_cons, hafter, List.filterMap_nil, List.getLast?_concat, after?_eq_some_iff.1 hafter]
      exact .present nofun
    | none =>
      have hline := after?_eq_none_iff.1 hafter
      rw [List.filterMap_cons, hafter, List.filterMap_nil, List.append_nil, ← lastAfter?]
      -- The line goes behind whatever was found before.
      generalize lastAfter? mark lines = part at ih
      have hbehind {after : List (List Char)} (h : ∀ other ∈ after, ¬mark.toList <+: other) :
          ∀ other ∈ after ++ [line], ¬mark.toList <+: other :=
        List.forall_mem_append.2 ⟨h, List.forall_mem_singleton.2 hline⟩
      cases ih with
      | absent h => exact .absent (hbehind h)
      | present h =>
        rw [List.append_assoc, List.cons_append]
        exact .present (hbehind h)

/-! ## Lines that tell of a link -/

/-- Lines that start with a title and an address and go on with at most two more. -/
structure Headed (lines : List (List Char)) (title uri : String) (rest : List (List Char)) : Prop where
  eq : lines = ("Remote link: " ++ title).toList :: ("URL: " ++ uri).toList :: rest
  room : rest.length ≤ 2

/-- The link with a title, an address, what further lines tell and nothing else. -/
structure Told (title : String) (url : Url) (rest : List (List Char)) (l : WebLink) : Prop where
  title : l.title = title
  uri : l.uri = url
  summary : LastText "Summary: " rest l.summary
  relationship : LastText "Relationship: " rest l.relationship
  resolved : l.resolved = false
  icon : l.icon = .none
  statusIcon : l.statusIcon = .none
  storedId : l.storedId = none

theorem told_iff {url : Url} {l : WebLink} : Told title url rest l ↔
    l = { ofUri url title with
      summary := lastAfter? summaryMark rest
      relationship := lastAfter? relationshipMark rest } := by
  constructor
  · rintro ⟨rfl, rfl, hsummary, hrelationship, hresolved, hicon, hstatusIcon, hstoredId⟩
    rw [summaryMark, relationshipMark, hsummary.lastAfter?_eq, hrelationship.lastAfter?_eq]
    cases l
    cases hresolved
    cases hicon
    cases hstatusIcon
    cases hstoredId
    rfl
  · rintro rfl
    exact ⟨rfl, rfl, lastText_lastAfter? _ rest, lastText_lastAfter? _ rest, rfl, rfl, rfl, rfl⟩

theorem Headed.readLines_of_parse {url : Url} (h : Headed lines title uri rest) (huri : Url.parse uri = .ok url) :
    readLines lines = .link { ofUri url title with
      summary := lastAfter? summaryMark rest
      relationship := lastAfter? relationshipMark rest } := by
  rw [h.eq]
  exact (CommentForm.readLines_of_parse huri rest).trans (if_neg (Nat.not_lt.2 h.room))

theorem Headed.readLines_of_error {e : UrlError} (h : Headed lines title uri rest)
    (huri : Url.parse uri = .error e) : readLines lines = .invalidUri := by
  have htitle : after? titleMark ("Remote link: " ++ title).toList = some title := after?_mark titleMark title
  have haddress : after? uriMark ("URL: " ++ uri).toList = some uri := after?_mark uriMark uri
  rw [h.eq, readLines, if_neg (Nat.not_lt.2 h.room), htitle, haddress]
  simp only [huri]

/-- Lines that do not start with a title and an address, or that are too many, tell nothing. -/
theorem headed_or_other (lines : List (List Char)) :
    (∃ title uri rest, Headed lines title uri rest) ∨ readLines lines = .other := by
  match lines with
  | [] => exact .inr rfl
  | [_] => exact .inr rfl
  | first :: second :: rest =>
    rw [readLines]
    by_cases hroom : 2 < rest.length
    · exact .inr (if_pos hroom)
    · rw [if_neg hroom]
      cases htitle : after? titleMark first with
      | none => exact .inr rfl
      | some title =>
        cases huri : after? uriMark second with
        | none => exact .inr rfl
        | some uri =>
          refine .inl ⟨title, uri, rest, ?_, Nat.not_lt.1 hroom⟩
          rw [after?_eq_some_iff.1 htitle, after?_eq_some_iff.1 huri]
          rfl

theorem readLines_eq_link_iff {l : WebLink} : readLines lines = .link l ↔
    ∃ title uri url rest, Headed lines title uri rest ∧ Url.parse uri = .ok url ∧ Told title url rest l := by
  constructor
  · intro hlink
    rcases headed_or_other lines with ⟨title, uri, rest, h⟩ | hother
    · cases huri : Url.parse uri with
      | ok url =>
        rw [h.readLines_of_parse huri, Reading.link.injEq] at hlink
        exact ⟨title, uri, url, rest, h, huri, told_iff.2 hlink.symm⟩
      | error e => exact absurd (hlink.symm.trans (h.readLines_of_error huri)) nofun
    · exact absurd (hlink.symm.trans hother) nofun
  · rintro ⟨title, uri, url, rest, h, huri, htold⟩
    rw [h.readLines_of_parse huri, told_iff.1 htold]

theorem readLines_eq_invalidUri_iff : readLines lines = .invalidUri ↔
    ∃ title uri rest, Headed lines title uri rest ∧ ∀ url, Url.parse uri ≠ .ok url := by
  constructor
  · intro hinvalid
    rcases headed_or_other lines with ⟨title, uri, rest, h⟩ | hother
    · refine ⟨title, uri, rest, h, fun url huri => ?_⟩
      exact absurd (hinvalid.symm.trans (h.readLines_of_parse huri)) nofun
    · exact absurd (hinvalid.symm.trans hother) nofun
  · rintro ⟨title, uri, rest, h, hnot⟩
    cases huri : Url.parse uri with
    | ok url => exact absurd huri (hnot url)
    | error e => exact h.readLines_of_error huri

theorem parse?_eq_some_iff {body : String} {l : WebLink} :
    parse? body = some l ↔ readLines (Text.lines body.toList) = .link l := by
  rw [parse?, read]
  cases readLines (Text.lines body.toList) <;> simp [Reading.link?]

/-! ## The lines that need not be there -/

/-- A line that tells a summary or a relationship. -/
def Optional (line : List Char) : Prop := "Summary: ".toList <+: line ∨ "Relationship: ".toList <+: line

instance : DecidablePred Optional := fun _ => inferInstanceAs (Decidable (_ ∨ _))

theorem isSome_after? (mark : String) (line : List Char) :
    (after? mark line).isSome = decide (mark.toList <+: line) := by
  rw [Bool.eq_iff_iff, decide_eq_true_iff, Option.isSome_iff_ne_none]
  exact not_iff_comm.1 after?_eq_none_iff.symm

/-- Under a mark that one line has at most, the order of the lines does not matter, nor what other lines there
are. -/
theorem lastAfter?_perm (hmark : ∀ line, mark.toList <+: line → Optional line)
    (hone : rest.countP (fun line => mark.toList <+: line) ≤ 1)
    (hperm : (rest.filter Optional).Perm (rest'.filter Optional)) : lastAfter? mark rest' = lastAfter? mark rest := by
  have hskip (lines : List (List Char)) :
      (lines.filter Optional).filterMap (after? mark) = lines.filterMap (after? mark) := by
    rw [List.filterMap_filter]
    refine List.filterMap_congr fun line _ => ?_
    split
    · rfl
    · rename_i hnot
      exact (after?_eq_none_iff.2 fun hstarts => hnot (decide_eq_true (hmark line hstarts))).symm
  have htexts := hperm.filterMap (after? mark)
  rw [hskip, hskip] at htexts
  have hlength : (rest.filterMap (after? mark)).length ≤ 1 := by
    simpa only [List.length_filterMap_eq_countP, isSome_after?] using hone
  rw [lastAfter?, lastAfter?]
  -- At most one text is told, and the same one by the other lines.
  cases hfound : rest.filterMap (after? mark) with
  | nil =>
    rw [hfound] at htexts
    rw [htexts.nil_eq]
  | cons text more =>
    have hmore : more = [] := by simpa [hfound] using hlength
    rw [hfound, hmore] at htexts
    rw [hmore, htexts.singleton_eq]

/-! ## Which comments are links -/

/-- A comment stands for a link exactly when its lines have the form above and the address can be read; the link
is then what they tell. The warning about an address is given exactly when everything is in place and the address
cannot be read. Lines that tell neither summary nor relationship count for nothing, and where none is told twice
the lines that do can change places. -/
theorem parse?_grammar (body : String) : ∃ lines, (∀ found, Text.Lined body.toList found ↔ found = lines) ∧
    (∀ l, parse? body = some l ↔
      ∃ title uri url rest, Headed lines title uri rest ∧ Url.parse uri = .ok url ∧ Told title url rest l) ∧
    ((read body).warnings.map Warning.message = ["invalid link in web link comment"] ↔
      ∃ title uri rest, Headed lines title uri rest ∧ ∀ url, Url.parse uri ≠ .ok url) ∧
    ((read body).warnings ≠ [] →
      (read body).warnings.map Warning.message = ["invalid link in web link comment"]) ∧
    (∀ (other : String) (first second : List Char) (rest rest' : List (List Char)),
      lines = first :: second :: rest → Text.Lined other.toList (first :: second :: rest') →
      rest.length ≤ 2 → rest'.length ≤ 2 → (rest.filter Optional).Perm (rest'.filter Optional) →
      rest.countP (fun line => "Summary: ".toList <+: line) ≤ 1 →
      rest.countP (fun line => "Relationship: ".toList <+: line) ≤ 1 → parse? other = parse? body) := by
  refine ⟨Text.lines body.toList, fun found => Text.lined_iff.trans eq_comm, fun l => ?_, ?_, ?_,
    fun other first second rest rest' hlines hother hroom hroom' hperm hsummary hrelationship => ?_⟩
  · exact parse?_eq_some_iff.trans readLines_eq_link_iff
  · rw [← readLines_eq_invalidUri_iff, read]
    cases readLines (Text.lines body.toList) <;> simp [Reading.warnings, Warning.message]
  · cases read body <;> simp [Reading.warnings, Warning.message]
  · have hsummary' : lastAfter? summaryMark rest' = lastAfter? summaryMark rest :=
      lastAfter?_perm (fun _ => .inl) hsummary hperm
    have hrelationship' : lastAfter? relationshipMark rest' = lastAfter? relationshipMark rest :=
      lastAfter?_perm (fun _ => .inr) hrelationship hperm
    rw [parse?, read, Text.lined_iff.1 hother, parse?, read, hlines, readLines, readLines,
      if_neg (Nat.not_lt.2 hroom), if_neg (Nat.not_lt.2 hroom'), hsummary', hrelationship']

/-- Title, address and both further lines, the relationship first. -/
def filled : String := "Remote link: Build\r\nURL: https://x/y\r\nRelationship: tested by\r\nSummary: nightly\r\n"

/-- The same with the further lines exchanged and no line feed at the end. -/
def reordered : String := "Remote link: Build\nURL: https://x/y\nSummary: nightly\nRelationship: tested by"

theorem parse?_grammar_reordered : parse? reordered = parse? filled := by
  obtain ⟨lines, hlined, -, -, -, horder⟩ := parse?_grammar filled
  have hlines : ["Remote link: Build".toList, "URL: https://x/y".toList, "Relationship: tested by".toList,
      "Summary: nightly".toList] = lines := (hlined _).1 (Text.lined_iff.2 (by decide +kernel))
  exact horder reordered _ _ _ ["Summary: nightly".toList, "Relationship: tested by".toList] hlines.symm
    (Text.lined_iff.2 (by decide +kernel)) (by decide) (by decide) (by decide +kernel) (by decide +kernel)
    (by decide +kernel)

end IssueTracker.WebLink.CommentForm
