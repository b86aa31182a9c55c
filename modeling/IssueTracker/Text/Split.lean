/-!
# Splitting text

Text cut at a separator and put together again. Cutting never loses a character, and there
is always at least one piece.
-/

namespace IssueTracker.Text

/-- The pieces between separators. -/
def splitOn (sep : Char) : List Char → List (List Char)
  | [] => [[]]
  | c :: cs =>
    if c = sep then [] :: splitOn sep cs
    else
      match splitOn sep cs with
      | [] => [[c]]
      | piece :: rest => (c :: piece) :: rest

/-- The pieces of a string. -/
def split (sep : Char) (s : String) : List String :=
  (splitOn sep s.toList).map String.ofList

/-- The pieces with a separator between them. -/
def joinWith (sep : List Char) : List (List Char) → List Char
  | [] => []
  | [piece] => piece
  | piece :: next :: rest => piece ++ sep ++ joinWith sep (next :: rest)

/-- The strings with a separator between them. -/
def join (sep : String) (pieces : List String) : String :=
  String.ofList (joinWith sep.toList (pieces.map String.toList))

theorem splitOn_ne_nil (sep : Char) (cs : List Char) : splitOn sep cs ≠ [] := by
  cases cs with
  | nil => simp [splitOn]
  | cons c cs =>
    simp only [splitOn]
    split
    · simp
    · split <;> simp

/-- Cutting and joining give the text back. -/
theorem joinWith_splitOn (sep : Char) (cs : List Char) :
    joinWith [sep] (splitOn sep cs) = cs := by
  induction cs with
  | nil => rfl
  | cons c cs ih =>
    obtain ⟨piece, rest, h⟩ := List.exists_cons_of_ne_nil (splitOn_ne_nil sep cs)
    rw [h] at ih
    by_cases hc : c = sep
    · subst hc; simp [splitOn, h, joinWith, ih]
    · cases rest <;> simp_all [splitOn, joinWith]

/-- Text without a separator is one piece. -/
theorem splitOn_of_notMem {sep : Char} {cs : List Char} (h : sep ∉ cs) : splitOn sep cs = [cs] := by
  induction cs with
  | nil => rfl
  | cons c cs ih =>
    have hc : c ≠ sep := fun e => h (e ▸ List.mem_cons_self)
    have hcs : sep ∉ cs := fun m => h (List.mem_cons_of_mem c m)
    rw [splitOn, if_neg hc, ih hcs]

/-- What comes before the first separator is the first piece. -/
theorem splitOn_append {sep : Char} {cs : List Char} (h : sep ∉ cs) (rest : List Char) :
    splitOn sep (cs ++ sep :: rest) = cs :: splitOn sep rest := by
  induction cs with
  | nil => simp [splitOn]
  | cons c cs ih =>
    have hc : c ≠ sep := fun e => h (e ▸ List.mem_cons_self)
    have hcs : sep ∉ cs := fun m => h (List.mem_cons_of_mem c m)
    rw [List.cons_append, splitOn, if_neg hc, ih hcs]

/-- Joining and cutting give the pieces back. -/
theorem splitOn_joinWith {sep : Char} {pieces : List (List Char)} (hne : pieces ≠ [])
    (h : ∀ piece ∈ pieces, sep ∉ piece) : splitOn sep (joinWith [sep] pieces) = pieces := by
  induction pieces with
  | nil => exact absurd rfl hne
  | cons piece rest ih =>
    cases rest with
    | nil => exact splitOn_of_notMem (h piece List.mem_cons_self)
    | cons next rest =>
      have hrest : ∀ p ∈ next :: rest, sep ∉ p := fun p hp => h p (List.mem_cons_of_mem _ hp)
      rw [joinWith, List.append_assoc, List.singleton_append, splitOn_append (h piece List.mem_cons_self),
        ih (List.cons_ne_nil next rest) hrest]

end IssueTracker.Text
