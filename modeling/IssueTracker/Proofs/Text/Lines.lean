import IssueTracker.Text.Lines
/-!
# Lines of any text

What a text gives as lines when a line feed ends it, whatever else it holds: one line for each
of its line feeds and one more, none of them with a line feed inside. A line keeps its characters
unless it ends in a carriage return. Which lists are the lines of a text is a relation of its own.
-/

namespace IssueTracker.Text

/-! ## Pieces -/

theorem splitOn_append_sep (sep : Char) (cs rest : List Char) :
    splitOn sep (cs ++ sep :: rest) = splitOn sep cs ++ splitOn sep rest := by
  induction cs with
  | nil => simp [splitOn]
  | cons c cs ih =>
    obtain ⟨piece, pieces, hpieces⟩ := List.exists_cons_of_ne_nil (splitOn_ne_nil sep cs)
    rw [hpieces] at ih
    by_cases hc : c = sep
    · simp [splitOn, hc, hpieces, ih]
    · simp [splitOn, hc, hpieces, ih]

theorem length_splitOn (sep : Char) (cs : List Char) : (splitOn sep cs).length = cs.count sep + 1 := by
  induction cs with
  | nil => rfl
  | cons c cs ih =>
    obtain ⟨piece, pieces, hpieces⟩ := List.exists_cons_of_ne_nil (splitOn_ne_nil sep cs)
    rw [hpieces, List.length_cons] at ih
    by_cases hc : c = sep
    · simp [splitOn, hc, hpieces, ih]
    · simp [splitOn, hc, hpieces, ih]

theorem notMem_of_mem_splitOn {sep : Char} {cs piece : List Char} (h : piece ∈ splitOn sep cs) : sep ∉ piece := by
  induction cs generalizing piece with
  | nil =>
    obtain rfl := List.mem_singleton.1 h
    simp
  | cons c cs ih =>
    obtain ⟨first, pieces, hpieces⟩ := List.exists_cons_of_ne_nil (splitOn_ne_nil sep cs)
    rw [hpieces] at ih
    by_cases hc : c = sep
    · rw [splitOn, if_pos hc, hpieces] at h
      rcases List.mem_cons.1 h with rfl | h
      · simp
      · exact ih h
    · rw [splitOn, if_neg hc, hpieces] at h
      rcases List.mem_cons.1 h with rfl | h
      · intro hmem
        rcases List.mem_cons.1 hmem with rfl | hmem
        · exact hc rfl
        · exact ih List.mem_cons_self hmem
      · exact ih (List.mem_cons_of_mem _ h)

theorem mem_joinWith {sep : List Char} {pieces : List (List Char)} {c : Char} (h : c ∈ joinWith sep pieces) :
    c ∈ sep ∨ ∃ piece ∈ pieces, c ∈ piece := by
  induction pieces with
  | nil => cases h
  | cons piece rest ih =>
    cases rest with
    | nil => exact .inr ⟨piece, List.mem_cons_self, h⟩
    | cons next rest =>
      rw [joinWith, List.mem_append, List.mem_append] at h
      rcases h with (h | h) | h
      · exact .inr ⟨piece, List.mem_cons_self, h⟩
      · exact .inl h
      · rcases ih h with h | ⟨p, hp, hc⟩
        · exact .inl h
        · exact .inr ⟨p, List.mem_cons_of_mem _ hp, hc⟩

/-- A piece holds nothing that the text does not. -/
theorem mem_of_mem_splitOn {sep : Char} {cs piece : List Char} (h : piece ∈ splitOn sep cs) {c : Char}
    (hc : c ∈ piece) : c ∈ cs := by
  induction cs generalizing piece with
  | nil =>
    obtain rfl := List.mem_singleton.1 h
    cases hc
  | cons d cs ih =>
    obtain ⟨first, pieces, hpieces⟩ := List.exists_cons_of_ne_nil (splitOn_ne_nil sep cs)
    rw [hpieces] at ih
    rw [splitOn] at h
    split at h
    · rcases List.mem_cons.1 h with rfl | h
      · cases hc
      · exact List.mem_cons_of_mem d (ih (hpieces ▸ h) hc)
    · rw [hpieces] at h
      rcases List.mem_cons.1 h with rfl | h
      · rcases List.mem_cons.1 hc with rfl | hc
        · exact List.mem_cons_self
        · exact List.mem_cons_of_mem d (ih List.mem_cons_self hc)
      · exact List.mem_cons_of_mem d (ih (List.mem_cons_of_mem _ h) hc)

/-! ## Carriage returns -/

/-- Only a carriage return at the very end is dropped. -/
theorem dropReturn_eq (cs : List Char) :
    dropReturn cs = if cs.getLast? = some '\r' then cs.dropLast else cs := by
  induction cs with
  | nil => rfl
  | cons c rest ih =>
    cases rest with
    | nil =>
      by_cases hc : c = '\r'
      · subst hc
        rfl
      · rw [dropReturn]
        · simp [hc, dropReturn]
        · simp [hc]
    | cons d rest =>
      rw [dropReturn, ih, List.getLast?_cons_cons]
      · split <;> rfl
      · simp

theorem dropReturn_eq_self {cs : List Char} : dropReturn cs = cs ↔ cs.getLast? ≠ some '\r' := by
  rw [dropReturn_eq]
  split
  · rename_i hlast
    have hne : cs ≠ [] := by
      rintro rfl
      cases hlast
    refine iff_of_false ?_ (not_not_intro hlast)
    intro h
    have hlength : cs.length - 1 = cs.length := by rw [← List.length_dropLast, h]
    have hpos := List.length_pos_iff.2 hne
    omega
  · rename_i hlast
    exact iff_of_true rfl hlast

theorem mem_of_mem_dropReturn {c : Char} {cs : List Char} (h : c ∈ dropReturn cs) : c ∈ cs := by
  rw [dropReturn_eq] at h
  split at h
  · exact cs.dropLast_sublist.mem h
  · exact h

/-- What comes first stays, unless it is all there is. -/
theorem dropReturn_append {cs : List Char} (h : cs.getLast? ≠ some '\r') (ds : List Char) :
    dropReturn (cs ++ ds) = cs ++ dropReturn ds := by
  cases ds with
  | nil => rw [List.append_nil, dropReturn_eq_self.2 h, dropReturn, List.append_nil]
  | cons d ds =>
    have hlast : (cs ++ d :: ds).getLast? = (d :: ds).getLast? := by
      rw [List.getLast?_append, List.getLast?_cons, Option.some_or]
    rw [dropReturn_eq, dropReturn_eq, hlast, List.dropLast_append_of_ne_nil (List.cons_ne_nil d ds)]
    split <;> rfl

/-! ## Lines -/

/-- The lines that a text gives when a line feed ends it. -/
def rows (cs : List Char) : List (List Char) := (splitOn '\n' cs).map dropReturn

/-- A text up to a line feed gives its rows, whatever follows. -/
theorem lines_append_feed (cs rest : List Char) : lines (cs ++ '\n' :: rest) = rows cs ++ lines rest := by
  -- All pieces but the last of the rest are lines that a line feed ends.
  have hpieces (pieces : List (List Char)) {more : List (List Char)} (hmore : more ≠ []) :
      linesOfPieces (pieces ++ more) = pieces.map dropReturn ++ linesOfPieces more := by
    induction pieces with
    | nil => rfl
    | cons piece pieces ih =>
      rw [List.cons_append, List.map_cons, List.cons_append, ← ih, linesOfPieces]
      simp [hmore]
  rw [lines, splitOn_append_sep, hpieces _ (splitOn_ne_nil '\n' rest), rows, lines]

theorem length_rows (cs : List Char) : (rows cs).length = cs.count '\n' + 1 := by
  rw [rows, List.length_map, length_splitOn]

theorem rows_of_noFeed {cs : List Char} (h : '\n' ∉ cs) : rows cs = [dropReturn cs] := by
  rw [rows, splitOn_of_notMem h, List.map_singleton]

/-- No line holds a line feed. -/
theorem noFeed_of_mem_lines {cs line : List Char} (h : line ∈ lines cs) : '\n' ∉ line := by
  have hpieces {pieces : List (List Char)} (hfree : ∀ piece ∈ pieces, '\n' ∉ piece) :
      ∀ line ∈ linesOfPieces pieces, '\n' ∉ line := by
    induction pieces with
    | nil => simp [linesOfPieces]
    | cons piece pieces ih =>
      cases pieces with
      | nil =>
        intro line hline
        rw [linesOfPieces] at hline
        split at hline
        · cases hline
        · exact hfree line hline
      | cons next pieces =>
        intro line hline
        rw [linesOfPieces] at hline
        · rcases List.mem_cons.1 hline with rfl | hline
          · exact fun hmem => hfree piece List.mem_cons_self (mem_of_mem_dropReturn hmem)
          · exact ih (fun piece' hpiece' => hfree piece' (List.mem_cons_of_mem _ hpiece')) line hline
        · simp
  exact hpieces (fun _ => notMem_of_mem_splitOn) line h

/-! ## Lines as a relation -/

/-- What it is for a text to have these lines. A line goes up to a line feed, or up to a carriage return and a
line feed; the last one may go up to the end of the text, and is not empty then. -/
inductive Lined : List Char → List (List Char) → Prop where
  | nothing : Lined [] []
  | unended {line : List Char} (hne : line ≠ []) (hfree : '\n' ∉ line) : Lined line [line]
  | feed {line rest : List Char} {more : List (List Char)} (hfree : '\n' ∉ line)
      (hreturn : line.getLast? ≠ some '\r') (h : Lined rest more) : Lined (line ++ '\n' :: rest) (line :: more)
  | returnFeed {line rest : List Char} {more : List (List Char)} (hfree : '\n' ∉ line) (h : Lined rest more) :
      Lined (line ++ '\r' :: '\n' :: rest) (line :: more)

theorem lines_of_noFeed {cs : List Char} (hne : cs ≠ []) (hfree : '\n' ∉ cs) : lines cs = [cs] := by
  rw [lines, splitOn_of_notMem hfree, linesOfPieces, if_neg hne]

theorem dropReturn_concat (cs : List Char) : dropReturn (cs ++ ['\r']) = cs := by
  rw [dropReturn_eq, if_pos List.getLast?_concat, List.dropLast_concat]

/-- The line that a line feed ends, with or without a carriage return before it. -/
theorem lines_feed {cs : List Char} (hfree : '\n' ∉ cs) (rest : List Char) :
    lines (cs ++ '\n' :: rest) = dropReturn cs :: lines rest := by
  rw [lines_append_feed, rows_of_noFeed hfree, List.singleton_append]

theorem Lined.lines_eq {cs : List Char} {found : List (List Char)} (h : Lined cs found) : lines cs = found := by
  induction h with
  | nothing => rfl
  | unended hne hfree => exact lines_of_noFeed hne hfree
  | feed hfree hreturn _ ih => rw [lines_feed hfree, dropReturn_eq_self.2 hreturn, ih]
  | @returnFeed line rest more hfree _ ih =>
    have hline : '\n' ∉ line ++ ['\r'] := by simp [hfree]
    rw [List.append_cons, lines_feed hline, dropReturn_concat, ih]

theorem lined_lines (cs : List Char) : Lined cs (lines cs) := by
  -- The induction is on the length: what follows the first line feed is shorter.
  induction hlength : cs.length using Nat.strongRecOn generalizing cs with
  | ind length ih =>
    subst hlength
    by_cases hfeed : '\n' ∈ cs
    · obtain ⟨line, rest, rfl, hfree⟩ := List.eq_append_cons_of_mem hfeed
      have hrest : Lined rest (lines rest) := ih rest.length (by simp; omega) rest rfl
      rw [lines_feed hfree]
      by_cases hreturn : line.getLast? = some '\r'
      · obtain ⟨line, rfl⟩ := List.getLast?_eq_some_iff.1 hreturn
        rw [dropReturn_concat, List.append_assoc, List.singleton_append]
        exact .returnFeed (fun hmem => hfree (List.mem_append_left _ hmem)) hrest
      · rw [dropReturn_eq_self.2 hreturn]
        exact .feed hfree hreturn hrest
    · by_cases hne : cs = []
      · subst hne
        exact .nothing
      · rw [lines_of_noFeed hne hfeed]
        exact .unended hne hfeed

/-- A text has its lines and no others. -/
theorem lined_iff {cs : List Char} {found : List (List Char)} : Lined cs found ↔ lines cs = found :=
  ⟨Lined.lines_eq, fun h => h ▸ lined_lines cs⟩

end IssueTracker.Text
