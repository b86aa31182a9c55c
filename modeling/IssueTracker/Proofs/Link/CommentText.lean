import IssueTracker.Link.CommentForm
import IssueTracker.Proofs.Link.Entry
import IssueTracker.Proofs.Text.Lines
/-!
# Links as comment text

The comment that is written for a link is read as the link again, without what a comment has no
lines for. What goes into a line must be one: a line feed would start another line, and a
carriage return at the end would be lost.
-/

namespace IssueTracker

/-! ## Lines -/

namespace Text

/-- A text that can be a line. -/
structure OneLine (cs : List Char) : Prop where
  noFeed : '\n' ∉ cs
  noReturn : cs.getLast? ≠ some '\r'

instance (cs : List Char) : Decidable (OneLine cs) :=
  decidable_of_iff ('\n' ∉ cs ∧ cs.getLast? ≠ some '\r') ⟨fun h => ⟨h.1, h.2⟩, fun h => ⟨h.noFeed, h.noReturn⟩⟩

theorem OneLine.append {cs ds : List Char} (hc : OneLine cs) (hd : OneLine ds) : OneLine (cs ++ ds) := by
  refine ⟨?_, ?_⟩
  · intro h
    rcases List.mem_append.1 h with h | h
    · exact hc.noFeed h
    · exact hd.noFeed h
  · rw [List.getLast?_append]
    intro h
    rcases Option.or_eq_some_iff.1 h with h | ⟨-, h⟩
    · exact hd.noReturn h
    · exact hc.noReturn h

@[simp] theorem lines_nil : lines [] = [] := rfl

/-- What can be a line is the first one before a line feed. -/
theorem lines_append {cs : List Char} (h : OneLine cs) (rest : List Char) :
    lines (cs ++ '\n' :: rest) = cs :: lines rest := by
  rw [lines_append_feed, rows_of_noFeed h.noFeed, dropReturn_eq_self.2 h.noReturn, List.singleton_append]

end Text

/-! ## Reading what was written -/

namespace WebLink

/-- What a comment tells of a link. -/
def plain (l : WebLink) : WebLink :=
  { l with resolved := false, icon := .none, statusIcon := .none, storedId := none }

/-- Every part of the link that a comment tells can be a line. Addresses never hold a line feed
or a carriage return, and they read back. -/
structure Postable (l : WebLink) : Prop where
  title : Text.OneLine l.title.toList
  summary : ∀ text, l.summary = some text → Text.OneLine text.toList
  relationship : ∀ text, l.relationship = some text → Text.OneLine text.toList
  uri : Text.OneLine l.uri.chars
  readsBack : l.uri.ReadsBack

/-- How many lines a part takes. -/
def lineCount : Option String → Nat
  | none => 0
  | some text => text.toList.count '\n' + 1

theorem lineCount_le_one {part : Option String} (h : ∀ text, part = some text → '\n' ∉ text.toList) :
    lineCount part ≤ 1 := by
  cases part with
  | none => exact Nat.zero_le 1
  | some text => simp [lineCount, List.count_eq_zero.2 (h text rfl)]

end WebLink

namespace WebLink.CommentForm

theorem after?_mark (mark text : String) : after? mark (mark ++ text).toList = some text := by
  have hprefix : mark.toList.isPrefixOf (mark.toList ++ text.toList) = true :=
    List.isPrefixOf_iff_prefix.2 (List.prefix_append _ _)
  rw [after?, String.toList_append, if_pos hprefix, List.drop_left, String.ofList_toList]

theorem oneLine_mark : Text.OneLine titleMark.toList ∧ Text.OneLine uriMark.toList ∧
    Text.OneLine summaryMark.toList ∧ Text.OneLine relationshipMark.toList :=
  ⟨⟨by decide, by decide⟩, ⟨by decide, by decide⟩, ⟨by decide, by decide⟩, ⟨by decide, by decide⟩⟩

/-- The line for a part that may be absent. -/
def lineOf? (mark : String) (part : Option String) : List (List Char) :=
  (part.map fun text => (mark ++ text).toList).toList

/-- The lines for a part that may be absent, whatever it holds. -/
def rowsOf (mark : String) (part : Option String) : List (List Char) :=
  (lineOf? mark part).flatMap Text.rows

theorem length_rowsOf {mark : String} (hmark : Text.OneLine mark.toList) (part : Option String) :
    (rowsOf mark part).length = lineCount part := by
  cases part with
  | none => rfl
  | some text => simp [rowsOf, lineOf?, lineCount, Text.length_rows, List.count_eq_zero.2 hmark.noFeed]

theorem lines_optionalLine (mark : String) (part : Option String) (rest : List Char) :
    Text.lines ((optionalLine mark part).toList ++ rest) = rowsOf mark part ++ Text.lines rest := by
  cases part with
  | none => simp [optionalLine, rowsOf, lineOf?]
  | some text =>
    have hrest : (optionalLine mark (some text)).toList ++ rest = (mark ++ text).toList ++ '\n' :: rest := by
      simp [optionalLine, String.toList_append]
    rw [hrest, Text.lines_append_feed]
    simp [rowsOf, lineOf?]

/-- The lines of the comment that is written for a link. -/
theorem lines_render {l : WebLink} (huri : Text.OneLine l.uri.chars) :
    Text.lines (render l).toList =
      Text.rows (titleMark ++ l.title).toList ++ (uriMark ++ l.uri.text).toList ::
        (rowsOf summaryMark l.summary ++ rowsOf relationshipMark l.relationship) := by
  have hline : Text.OneLine (uriMark ++ l.uri.text).toList := by
    rw [String.toList_append, Url.text, String.toList_ofList]
    exact oneLine_mark.2.1.append huri
  have hrender : (render l).toList =
      (titleMark ++ l.title).toList ++ '\n' :: ((uriMark ++ l.uri.text).toList ++ '\n' ::
        ((optionalLine summaryMark l.summary).toList ++
          ((optionalLine relationshipMark l.relationship).toList ++ []))) := by
    simp [render, String.toList_append]
  rw [hrender, Text.lines_append_feed, Text.lines_append hline, lines_optionalLine, lines_optionalLine,
    Text.lines_nil, List.append_nil]

/-! ## Parts of a line -/

/-- A text without the carriage return at its end. -/
def unreturned (text : String) : String := String.ofList (Text.dropReturn text.toList)

theorem unreturned_eq_self {text : String} : unreturned text = text ↔ text.toList.getLast? ≠ some '\r' := by
  rw [unreturned, ← Text.dropReturn_eq_self]
  constructor
  · intro h
    rw [← String.toList_ofList (l := Text.dropReturn text.toList), h]
  · intro h
    rw [h, String.ofList_toList]

/-- A part without line feeds is one line after its mark. -/
theorem rows_mark {mark text : String} (hmark : Text.OneLine mark.toList) (h : '\n' ∉ text.toList) :
    Text.rows (mark ++ text).toList = [(mark ++ unreturned text).toList] := by
  have hfree : '\n' ∉ mark.toList ++ text.toList := by
    intro hmem
    rcases List.mem_append.1 hmem with hmem | hmem
    · exact hmark.noFeed hmem
    · exact h hmem
  rw [String.toList_append, Text.rows_of_noFeed hfree, Text.dropReturn_append hmark.noReturn,
    String.toList_append, unreturned, String.toList_ofList]

theorem rowsOf_mark {mark : String} {part : Option String} (hmark : Text.OneLine mark.toList)
    (h : ∀ text, part = some text → '\n' ∉ text.toList) :
    rowsOf mark part = lineOf? mark (part.map unreturned) := by
  cases part with
  | none => rfl
  | some text =>
    have hrow := rows_mark hmark (h text rfl)
    simpa [rowsOf, lineOf?] using hrow

/-! ## Reading -/

/-- Lines that start with title and address are read as a link, unless there are too many. -/
theorem readLines_of_parse {title uri : String} {url : Url} (huri : Url.parse uri = .ok url)
    (rest : List (List Char)) :
    readLines ((titleMark ++ title).toList :: (uriMark ++ uri).toList :: rest) =
      if 2 < rest.length then .other
      else .link { ofUri url title with
        summary := lastAfter? summaryMark rest
        relationship := lastAfter? relationshipMark rest } := by
  rw [readLines, after?_mark, after?_mark]
  simp only [huri]

/-- Neither optional line is taken for the other. -/
theorem lastAfter?_lineOf? (summary relationship : Option String) :
    let rest := lineOf? summaryMark summary ++ lineOf? relationshipMark relationship
    lastAfter? summaryMark rest = summary ∧ lastAfter? relationshipMark rest = relationship := by
  have hother (text : String) : after? summaryMark (relationshipMark ++ text).toList = none ∧
      after? relationshipMark (summaryMark ++ text).toList = none := by
    simp [after?, String.toList_append, summaryMark, relationshipMark]
  cases summary <;> cases relationship <;>
    simp [lastAfter?, lineOf?, after?_mark, hother, -String.toList_append]

/-- With a title that holds no line feed, the first two lines are known, and the others are as many
as the other parts take. -/
theorem read_render_of_noFeed {l : WebLink} (hback : l.uri.ReadsBack) (huri : Text.OneLine l.uri.chars)
    (htitle : '\n' ∉ l.title.toList) :
    let rest := rowsOf summaryMark l.summary ++ rowsOf relationshipMark l.relationship
    read (render l) =
      if 2 < lineCount l.summary + lineCount l.relationship then .other
      else .link { ofUri l.uri (unreturned l.title) with
        summary := lastAfter? summaryMark rest
        relationship := lastAfter? relationshipMark rest } := by
  intro rest
  obtain ⟨htitleMark, -, hsummaryMark, hrelationshipMark⟩ := oneLine_mark
  have hlength : rest.length = lineCount l.summary + lineCount l.relationship := by
    rw [List.length_append, length_rowsOf hsummaryMark, length_rowsOf hrelationshipMark]
  rw [read, lines_render huri, rows_mark htitleMark htitle, List.singleton_append, readLines_of_parse hback, hlength]

/-- Where no part holds a line feed, the comment stands for the link with the carriage returns at
the ends of its parts dropped, and without what a comment does not tell. -/
theorem parse?_render_of_noFeed {l : WebLink} (hback : l.uri.ReadsBack) (huri : Text.OneLine l.uri.chars)
    (htitle : '\n' ∉ l.title.toList) (hsummary : ∀ text, l.summary = some text → '\n' ∉ text.toList)
    (hrelationship : ∀ text, l.relationship = some text → '\n' ∉ text.toList) :
    parse? (render l) = some { ofUri l.uri (unreturned l.title) with
      summary := l.summary.map unreturned
      relationship := l.relationship.map unreturned } := by
  obtain ⟨-, -, hsummaryMark, hrelationshipMark⟩ := oneLine_mark
  have hroom : ¬ 2 < lineCount l.summary + lineCount l.relationship := by
    have := lineCount_le_one hsummary
    have := lineCount_le_one hrelationship
    omega
  obtain ⟨hreadSummary, hreadRelationship⟩ :=
    lastAfter?_lineOf? (l.summary.map unreturned) (l.relationship.map unreturned)
  rw [parse?, read_render_of_noFeed hback huri htitle, if_neg hroom, rowsOf_mark hsummaryMark hsummary,
    rowsOf_mark hrelationshipMark hrelationship, hreadSummary, hreadRelationship]
  rfl

/-- The comment that is written for a link stands for it, without what a comment does not tell. -/
theorem parse?_render {l : WebLink} (h : l.Postable) : parse? (render l) = some l.plain := by
  have hpart {part : Option String} (hpart : ∀ text, part = some text → Text.OneLine text.toList) :
      part.map unreturned = part := by
    cases part with
    | none => rfl
    | some text => rw [Option.map_some, unreturned_eq_self.2 (hpart text rfl).noReturn]
  rw [parse?_render_of_noFeed h.readsBack h.uri h.title.noFeed (fun text ht => (h.summary text ht).noFeed)
    (fun text ht => (h.relationship text ht).noFeed), unreturned_eq_self.2 h.title.noReturn, hpart h.summary,
    hpart h.relationship]
  rfl

end WebLink.CommentForm

end IssueTracker
