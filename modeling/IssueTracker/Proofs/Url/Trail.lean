import IssueTracker.Proofs.Text.Lines
import IssueTracker.Proofs.Url.Percent
import IssueTracker.Url.Path
/-!
# Paths as directories

How the path of a web URL is read, told by directories and not by characters: the text is cut at
its separators, and each piece leads into a directory, stays or goes up. A double dot goes up
however it is written, but neither above the root nor above a drive letter. What has been read
once is read as itself from then on.
-/

namespace IssueTracker.Url

/-- The text of directories, from the root, with a slash behind each. -/
def dirText (dirs : List (List Char)) : List Char := '/' :: dirs.flatMap (· ++ ['/'])

/-- A path: the directories that lead there and the name that it has in the last of them, which
may be empty. -/
structure Trail where
  dirs : List (List Char)
  name : List Char

/-- The text of a path. -/
def Trail.text (t : Trail) : List Char := dirText t.dirs ++ t.name

/-- The directories above the last one. -/
def goUp (dirs : List (List Char)) : List (List Char) :=
  if dirs.getLast?.any isDriveLetter then dirs else dirs.dropLast

/-- Where a piece leads that a separator follows. -/
def enter (dirs : List (List Char)) (piece : List Char) : List (List Char) :=
  match dots piece with
  | some 2 => goUp dirs
  | some 1 => dirs
  | _ => dirs ++ [piece]

/-- Where the last piece leads. -/
def arrive (dirs : List (List Char)) (piece : List Char) : Trail :=
  match dots piece with
  | some 2 => ⟨goUp dirs, []⟩
  | some 1 => ⟨dirs, []⟩
  | _ => ⟨dirs, piece⟩

/-- Where pieces lead, one after the other. -/
def walk (dirs : List (List Char)) : List (List Char) → Trail
  | [] => ⟨dirs, []⟩
  | [piece] => arrive dirs piece
  | piece :: next :: rest => walk (enter dirs piece) (next :: rest)

/-- The pieces of a text up to the end of its path, as they are written in a path. -/
def PathRules.pieces (r : PathRules) (cs : List Char) : List (List Char) :=
  (Text.splitOn '/' ((cs.takeWhile (!r.ends ·)).map fun c => if r.separates c then '/' else c)).map (encode inPathSet)

section Steps

variable {dirs : List (List Char)} {piece : List Char}

theorem enter_up (h : dots piece = some 2) : enter dirs piece = goUp dirs := by simp only [enter, h]

theorem enter_stay (h : dots piece = some 1) : enter dirs piece = dirs := by simp only [enter, h]

theorem enter_down (hup : dots piece ≠ some 2) (hstay : dots piece ≠ some 1) :
    enter dirs piece = dirs ++ [piece] := by
  unfold enter
  split
  · contradiction
  · contradiction
  · rfl

theorem arrive_up (h : dots piece = some 2) : arrive dirs piece = ⟨goUp dirs, []⟩ := by simp only [arrive, h]

theorem arrive_stay (h : dots piece = some 1) : arrive dirs piece = ⟨dirs, []⟩ := by simp only [arrive, h]

theorem arrive_down (hup : dots piece ≠ some 2) (hstay : dots piece ≠ some 1) :
    arrive dirs piece = ⟨dirs, piece⟩ := by
  unfold arrive
  split
  · contradiction
  · contradiction
  · rfl

theorem walk_cons {rest : List (List Char)} (h : rest ≠ []) :
    walk dirs (piece :: rest) = walk (enter dirs piece) rest := by
  obtain ⟨next, rest, rfl⟩ := List.exists_cons_of_ne_nil h
  rfl

end Steps

/-! ## Directories -/

theorem dirText_concat (dirs : List (List Char)) (dir : List Char) :
    dirText (dirs ++ [dir]) = dirText dirs ++ (dir ++ ['/']) := by
  simp [dirText]

/-- The text of directories ends in a slash. -/
theorem exists_dirText (dirs : List (List Char)) : ∃ cs, dirText dirs = cs ++ ['/'] := by
  rcases List.eq_nil_or_concat dirs with rfl | ⟨above, dir, rfl⟩
  · exact ⟨[], rfl⟩
  · exact ⟨dirText above ++ dir, by rw [List.concat_eq_append, dirText_concat, List.append_assoc]⟩

theorem flatMap_eq_joinWith (dirs : List (List Char)) (name : List Char) :
    dirs.flatMap (· ++ ['/']) ++ name = Text.joinWith ['/'] (dirs ++ [name]) := by
  induction dirs with
  | nil => rfl
  | cons dir dirs ih =>
    obtain ⟨next, rest, hrest⟩ :=
      List.exists_cons_of_ne_nil (List.append_ne_nil_of_right_ne_nil dirs (List.cons_ne_nil name []))
    rw [hrest] at ih
    rw [List.flatMap_cons, List.append_assoc, ih, List.cons_append, hrest, Text.joinWith]

section Reading

variable {r : PathRules} {dirs : List (List Char)} {piece : List Char}

theorem withSlash_dirText (dirs : List (List Char)) :
    withSlash (dirText dirs).reverse = (dirText dirs).reverse := by
  obtain ⟨cs, hcs⟩ := exists_dirText dirs
  rw [hcs, List.reverse_append]
  rfl

theorem toLastSlash_dirText (dirs : List (List Char)) :
    toLastSlash (dirText dirs).reverse = (dirText dirs).reverse := by
  obtain ⟨cs, hcs⟩ := exists_dirText dirs
  rw [hcs, List.reverse_append]
  rfl

theorem popSegment_special (stack : List Char) : popSegment .special stack = toLastSlash stack :=
  if_neg fun h => nomatch h.1

/-- Going up drops the last directory and its slash. -/
theorem popSegment_dropLastSlash (hdirs : ∀ dir ∈ dirs, '/' ∉ dir) :
    popSegment .special (dropLastSlash (dirText dirs).reverse) = (dirText (goUp dirs)).reverse := by
  rw [popSegment_special]
  rcases List.eq_nil_or_concat dirs with rfl | ⟨above, dir, rfl⟩
  · rfl
  · rw [List.concat_eq_append] at hdirs ⊢
    have hdir : ∀ c ∈ dir.reverse, decide (c ≠ '/') = true := by
      intro c hc
      have hslash := hdirs dir (List.mem_append_right _ (List.mem_singleton_self dir))
      exact decide_eq_true fun h => hslash (h ▸ List.mem_reverse.1 hc)
    obtain ⟨cs, hcs⟩ := exists_dirText above
    have hstack : (dirText (above ++ [dir])).reverse = '/' :: (dir.reverse ++ (dirText above).reverse) := by
      rw [dirText_concat]
      simp
    have htop : (dir.reverse ++ (dirText above).reverse).takeWhile (· ≠ '/') = dir.reverse := by
      rw [List.takeWhile_append_of_pos hdir, hcs, List.reverse_append]
      simp
    have hslash : (dir.reverse ++ (dirText above).reverse).contains '/' = true := by
      rw [hcs]
      simp
    rw [hstack, dropLastSlash, htop, List.reverse_reverse, hslash, Bool.true_and, goUp, List.getLast?_concat,
      Option.any_some]
    cases isDriveLetter dir with
    | true => exact hstack.symm
    | false =>
      rw [toLastSlash, if_pos (by rfl), List.dropWhile_append_of_pos hdir, if_neg (by simp), List.dropLast_concat]
      exact toLastSlash_dirText above

/-- A piece that a separator follows leads into its directory. -/
theorem endSegment_enter (hr : r.kind = .special) (hdirs : ∀ dir ∈ dirs, '/' ∉ dir) (stands : Bool) :
    endSegment r true ⟨(dirText dirs).reverse, stands⟩ piece = ⟨(dirText (enter dirs piece)).reverse, stands⟩ := by
  unfold endSegment
  split
  · rename_i hup
    simp only [hr, popSegment_dropLastSlash hdirs, if_true, withSlash_dirText, enter_up hup]
  · rename_i hstay
    simp only [withSlash_dirText, enter_stay hstay]
  · rename_i hup hstay
    simp only [hr, if_true, enter_down hup hstay, dirText_concat]
    simp

/-- The last piece gives the path its name. -/
theorem endSegment_arrive (hr : r.kind = .special) (hdirs : ∀ dir ∈ dirs, '/' ∉ dir) (stands : Bool) :
    endSegment r false ⟨(dirText dirs).reverse, stands⟩ piece = ⟨(arrive dirs piece).text.reverse, stands⟩ := by
  unfold endSegment
  split
  · rename_i hup
    simp [hr, popSegment_dropLastSlash hdirs, arrive_up hup, Trail.text]
  · rename_i hstay
    simp [withSlash_dirText, arrive_stay hstay, Trail.text]
  · rename_i hup hstay
    simp [hr, arrive_down hup hstay, Trail.text]

theorem openSegment_special (hr : r.kind = .special) (stack : List Char) : openSegment r stack = stack := by
  simp [openSegment, hr]

end Reading

/-! ## Pieces -/

section Pieces

variable {r : PathRules} {c : Char}

theorem pieces_nil : r.pieces [] = [[]] := rfl

theorem pieces_ne_nil (cs : List Char) : r.pieces cs ≠ [] := by
  simp [PathRules.pieces, Text.splitOn_ne_nil]

theorem ends_of_separates (hc : r.separates c = true) : r.ends c = false := by
  simp only [PathRules.separates, Bool.or_eq_true, Bool.and_eq_true, decide_eq_true_eq] at hc
  rcases hc with rfl | ⟨rfl, -⟩ <;> simp [PathRules.ends]

theorem pieces_separator (hc : r.separates c = true) (cs : List Char) :
    r.pieces (c :: cs) = [] :: r.pieces cs := by
  rw [PathRules.pieces, List.takeWhile_cons_of_pos (by rw [ends_of_separates hc]; rfl), List.map_cons,
    if_pos hc, Text.splitOn, if_pos rfl]
  rfl

theorem pieces_end (hc : r.ends c = true) (cs : List Char) : r.pieces (c :: cs) = [[]] := by
  rw [PathRules.pieces, List.takeWhile_cons_of_neg (by simp [hc])]
  rfl

theorem ne_slash_of_separates (hc : r.separates c = false) : c ≠ '/' := by
  rintro rfl
  simp [PathRules.separates] at hc

theorem pieces_cons (hc : r.separates c = false) (hend : r.ends c = false) (cs : List Char) :
    r.pieces (c :: cs) = (r.pieces cs).modifyHead (encodeChar inPathSet c ++ ·) := by
  have hslash : c ≠ '/' := ne_slash_of_separates hc
  rw [PathRules.pieces, List.takeWhile_cons_of_pos (by simp [hend]), List.map_cons, if_neg (by simp [hc]), Text.splitOn,
    if_neg hslash, PathRules.pieces]
  obtain ⟨piece, rest, hpieces⟩ := List.exists_cons_of_ne_nil (Text.splitOn_ne_nil '/'
    ((cs.takeWhile (!r.ends ·)).map fun c => if r.separates c then '/' else c))
  rw [hpieces]
  simp [encode]

theorem slash_notMem_encode {cs : List Char} (h : '/' ∉ cs) : '/' ∉ encode inPathSet cs :=
  notMem_encode (by decide) (by decide) h

end Pieces

section Walking

variable {r : PathRules} {dirs : List (List Char)}

theorem modifyHead_nil_append (pieces : List (List Char)) : pieces.modifyHead ([] ++ ·) = pieces := by
  cases pieces <;> rfl

theorem mem_of_mem_goUp {dir : List Char} (h : dir ∈ goUp dirs) : dir ∈ dirs := by
  rw [goUp] at h
  split at h
  · exact h
  · exact (List.dropLast_sublist dirs).subset h

/-- A piece that is no dots is the only directory that can be new. -/
theorem mem_of_mem_enter {dir piece : List Char} (h : dir ∈ enter dirs piece) :
    dir ∈ dirs ∨ dir = piece ∧ dots piece ≠ some 2 ∧ dots piece ≠ some 1 := by
  by_cases hup : dots piece = some 2
  · rw [enter_up hup] at h
    exact .inl (mem_of_mem_goUp h)
  · by_cases hstay : dots piece = some 1
    · rw [enter_stay hstay] at h
      exact .inl h
    · rw [enter_down hup hstay, List.mem_append, List.mem_singleton] at h
      exact h.imp_right fun heq => ⟨heq, hup, hstay⟩

theorem slashFree_enter (hdirs : ∀ dir ∈ dirs, '/' ∉ dir) {piece : List Char} (hpiece : '/' ∉ piece) :
    ∀ dir ∈ enter dirs piece, '/' ∉ dir := by
  intro dir hdir
  rcases mem_of_mem_enter hdir with hdir | ⟨rfl, -, -⟩
  · exact hdirs dir hdir
  · exact hpiece

/-- Reading a text with a piece under way walks along the pieces of the text. -/
theorem segments_walk (hr : r.kind = .special) (stands : Bool) (cs piece : List Char) (hdirs : ∀ dir ∈ dirs, '/' ∉ dir)
    (hpiece : '/' ∉ piece) :
    segments r ⟨(dirText dirs).reverse, stands⟩ piece.reverse cs =
      (⟨(walk dirs ((r.pieces cs).modifyHead (piece ++ ·))).text.reverse, stands⟩, cs.dropWhile (!r.ends ·)) := by
  induction cs generalizing dirs piece with
  | nil => rw [segments, List.reverse_reverse, endSegment_arrive hr hdirs, pieces_nil]; simp [walk]
  | cons c cs ih =>
    rw [segments]
    split
    · rename_i hc
      rw [List.reverse_reverse, endSegment_enter hr hdirs, pieces_separator hc, List.modifyHead_cons, List.append_nil,
        walk_cons (pieces_ne_nil cs), List.dropWhile_cons_of_pos (by rw [ends_of_separates hc]; rfl)]
      have hrest := ih [] (slashFree_enter hdirs hpiece) List.not_mem_nil
      rwa [modifyHead_nil_append] at hrest
    · split
      · rename_i hend
        rw [List.reverse_reverse, endSegment_arrive hr hdirs, pieces_end hend,
          List.dropWhile_cons_of_neg (by simp [hend])]
        simp [walk]
      · rename_i hc hend
        rw [Bool.not_eq_true] at hc hend
        have hslash : '/' ∉ [c] := by simpa using (ne_slash_of_separates hc).symm
        have hmore : '/' ∉ piece ++ encodeChar inPathSet c := by
          simpa [hpiece, encode] using slash_notMem_encode hslash
        rw [openSegment_special hr, ← List.reverse_append, ih _ hdirs hmore, pieces_cons hc hend,
          List.dropWhile_cons_of_pos (by simp [hend]), List.modifyHead_modifyHead]
        simp [Function.comp_def]

/-- Reading a path below directories walks from there along its pieces. -/
theorem parsePath_dirText (hr : r.kind = .special) (stands : Bool) (cs : List Char) (hdirs : ∀ dir ∈ dirs, '/' ∉ dir) :
    parsePath r (dirText dirs) stands cs = ⟨(walk dirs (r.pieces cs)).text, stands, cs.dropWhile (!r.ends ·)⟩ := by
  have hwalk := segments_walk hr stands cs [] hdirs List.not_mem_nil
  rw [List.reverse_nil, modifyHead_nil_append] at hwalk
  simp only [parsePath, hwalk, hr, finishPath, List.reverse_reverse]

end Walking

/-! ## What has been read -/

/-- Characters that a path keeps as they are. -/
def Kept (piece : List Char) : Prop := ∀ c ∈ piece, inPathSet c = false ∧ c ≠ '/' ∧ c ≠ '\\'

/-- A piece that is read as a name of its own. -/
structure Settled (piece : List Char) : Prop where
  kept : Kept piece
  notUp : dots piece ≠ some 2
  notHere : dots piece ≠ some 1

/-- A path all of whose names are read as themselves. -/
structure Trail.Settled (t : Trail) : Prop where
  dirs : ∀ dir ∈ t.dirs, Url.Settled dir
  name : Url.Settled t.name

theorem settled_nil : Settled [] := ⟨fun _ h => absurd h List.not_mem_nil, by decide, by decide⟩

theorem Settled.slashFree {piece : List Char} (h : Settled piece) :
    '/' ∉ piece := fun hmem => (h.kept _ hmem).2.1 rfl

section Settled

variable {r : PathRules} {dirs ps : List (List Char)}

theorem settled_enter (hdirs : ∀ dir ∈ dirs, Settled dir) {piece : List Char} (hpiece : Kept piece) :
    ∀ dir ∈ enter dirs piece, Settled dir := by
  intro dir hdir
  rcases mem_of_mem_enter hdir with hdir | ⟨rfl, hup, hstay⟩
  · exact hdirs dir hdir
  · exact ⟨hpiece, hup, hstay⟩

theorem settled_arrive (hdirs : ∀ dir ∈ dirs, Settled dir) {piece : List Char} (hpiece : Kept piece) :
    (arrive dirs piece).Settled := by
  by_cases hup : dots piece = some 2
  · rw [arrive_up hup]
    exact ⟨fun dir hdir => hdirs dir (mem_of_mem_goUp hdir), settled_nil⟩
  · by_cases hstay : dots piece = some 1
    · rw [arrive_stay hstay]
      exact ⟨hdirs, settled_nil⟩
    · rw [arrive_down hup hstay]
      exact ⟨hdirs, hpiece, hup, hstay⟩

/-- Walking keeps to names that are read as themselves. -/
theorem settled_walk (hdirs : ∀ dir ∈ dirs, Settled dir) (hps : ∀ piece ∈ ps, Kept piece) :
    (walk dirs ps).Settled := by
  induction ps generalizing dirs with
  | nil => exact ⟨hdirs, settled_nil⟩
  | cons piece rest ih =>
    have hpiece := hps piece List.mem_cons_self
    cases rest with
    | nil => exact settled_arrive hdirs hpiece
    | cons next rest => exact ih (settled_enter hdirs hpiece) fun p hp => hps p (List.mem_cons_of_mem _ hp)

/-- The pieces of a text are written as a path keeps them. -/
theorem kept_pieces (hr : r.kind = .special) (cs : List Char) : ∀ piece ∈ r.pieces cs, Kept piece := by
  intro piece hpiece c hc
  obtain ⟨raw, hraw, rfl⟩ := List.mem_map.1 hpiece
  have hslash : '/' ∉ raw := Text.notMem_of_mem_splitOn hraw
  have hback : '\\' ∉ raw := by
    intro hmem
    obtain ⟨d, -, hd⟩ := List.mem_map.1 (Text.mem_of_mem_splitOn hraw hmem)
    split at hd
    · cases hd
    · rename_i hsep
      subst hd
      simp [PathRules.separates, hr, SchemeKind.isSpecial] at hsep
  obtain ⟨d, -, hd⟩ := List.mem_flatMap.1 hc
  refine ⟨notIn_encodeChar (by decide) (by decide) hd, ?_, ?_⟩
  · rintro rfl
    exact notMem_encode (by decide) (by decide) hslash hc
  · rintro rfl
    exact notMem_encode (by decide) (by decide) hback hc

theorem separates_of_kept {piece : List Char} (h : Kept piece) : ∀ c ∈ piece, r.separates c = false := by
  intro c hc
  simp [PathRules.separates, (h c hc).2.1, (h c hc).2.2]

theorem ends_of_kept {piece : List Char} (h : Kept piece) : ∀ c ∈ piece, r.ends c = false := by
  intro c hc
  have hchar : ¬(c = '?' ∨ c = '#') := by
    rintro (rfl | rfl)
    · exact absurd (h _ hc).1 (by decide)
    · exact absurd (h _ hc).1 (by decide)
  simpa [PathRules.ends] using fun _ => not_or.1 hchar

/-- A name that a path keeps is the start of the first piece. -/
theorem pieces_append {name : List Char} (h : Kept name) (cs : List Char) :
    r.pieces (name ++ cs) = (r.pieces cs).modifyHead (name ++ ·) := by
  induction name with
  | nil => exact (modifyHead_nil_append _).symm
  | cons c name ih =>
    have hkept : encodeChar inPathSet c = [c] := by rw [encodeChar, (h c List.mem_cons_self).1]; rfl
    rw [List.cons_append, pieces_cons (separates_of_kept h c List.mem_cons_self) (ends_of_kept h c List.mem_cons_self),
      ih fun d hd => h d (List.mem_cons_of_mem c hd), List.modifyHead_modifyHead, hkept]
    rfl

theorem pieces_append_slash {name : List Char} (h : Kept name) (cs : List Char) :
    r.pieces (name ++ '/' :: cs) = name :: r.pieces cs := by
  rw [pieces_append h, pieces_separator (by simp [PathRules.separates]), List.modifyHead_cons, List.append_nil]

theorem pieces_of_kept {name : List Char} (h : Kept name) : r.pieces name = [name] := by
  have happend := pieces_append (r := r) h []
  rwa [List.append_nil, pieces_nil, List.modifyHead_cons, List.append_nil] at happend

/-- Names that a path keeps are the pieces of their text. -/
theorem pieces_joinWith (hne : ps ≠ []) (hps : ∀ piece ∈ ps, Kept piece) :
    r.pieces (Text.joinWith ['/'] ps) = ps := by
  induction ps with
  | nil => exact absurd rfl hne
  | cons piece rest ih =>
    have hpiece := hps piece List.mem_cons_self
    cases rest with
    | nil => exact pieces_of_kept hpiece
    | cons next rest =>
      rw [Text.joinWith, List.append_assoc, List.singleton_append, pieces_append_slash hpiece,
        ih (List.cons_ne_nil next rest) fun p hp => hps p (List.mem_cons_of_mem _ hp)]

/-- Names that are read as themselves lead where they say. -/
theorem walk_settled (hps : ∀ piece ∈ ps, Settled piece) {name : List Char} (hname : Settled name) :
    walk dirs (ps ++ [name]) = ⟨dirs ++ ps, name⟩ := by
  induction ps generalizing dirs with
  | nil => rw [List.nil_append, walk, arrive_down hname.notUp hname.notHere, List.append_nil]
  | cons piece ps ih =>
    have hpiece := hps piece List.mem_cons_self
    rw [List.cons_append, walk_cons (by simp), enter_down hpiece.notUp hpiece.notHere,
      ih fun p hp => hps p (List.mem_cons_of_mem _ hp), List.append_assoc, List.singleton_append]

end Settled

/-! ## Closed paths -/

/-- The path with a slash at its end. -/
def closePath (path : List Char) : List Char := if path.getLast? = some '/' then path else path ++ ['/']

/-- The directories that a path leads through and into. -/
def Trail.closed (t : Trail) : List (List Char) := if t.name = [] then t.dirs else t.dirs ++ [t.name]

theorem getLast?_dirText (dirs : List (List Char)) : (dirText dirs).getLast? = some '/' := by
  obtain ⟨cs, hcs⟩ := exists_dirText dirs
  rw [hcs, List.getLast?_concat]

theorem closePath_dirText (dirs : List (List Char)) : closePath (dirText dirs) = dirText dirs :=
  if_pos (getLast?_dirText dirs)

theorem closePath_text {t : Trail} (hname : '/' ∉ t.name) : closePath t.text = dirText t.closed := by
  by_cases hnil : t.name = []
  · rw [Trail.text, Trail.closed, if_pos hnil, hnil, List.append_nil, closePath_dirText]
  · have hlast : t.text.getLast? ≠ some '/' := by
      intro h
      rw [Trail.text, List.getLast?_append, List.getLast?_eq_some_getLast hnil, Option.some_or] at h
      exact hname (Option.some.inj h ▸ List.getLast_mem hnil)
    rw [closePath, if_neg hlast, Trail.closed, if_neg hnil, dirText_concat, Trail.text, List.append_assoc]

theorem Trail.Settled.closed {t : Trail} (h : t.Settled) : ∀ dir ∈ t.closed, Url.Settled dir := by
  rw [Trail.closed]
  split
  · exact h.dirs
  · simpa [or_imp, forall_and] using ⟨h.dirs, h.name⟩

/-- An empty piece after the last one closes the path. -/
theorem walk_close {piece : List Char} (hpiece : piece ≠ []) (dirs ps : List (List Char)) :
    walk dirs (ps ++ [piece, []]) = ⟨(walk dirs (ps ++ [piece])).closed, []⟩ := by
  induction ps generalizing dirs with
  | nil =>
    change arrive (enter dirs piece) [] = ⟨(arrive dirs piece).closed, []⟩
    rw [arrive_down (by decide) (by decide)]
    by_cases hup : dots piece = some 2
    · rw [enter_up hup, arrive_up hup, Trail.closed, if_pos rfl]
    · by_cases hstay : dots piece = some 1
      · rw [enter_stay hstay, arrive_stay hstay, Trail.closed, if_pos rfl]
      · rw [enter_down hup hstay, arrive_down hup hstay, Trail.closed, if_neg hpiece]
  | cons first ps ih =>
    rw [List.cons_append, List.cons_append, walk_cons (by simp), walk_cons (by simp), ih]

/-! ## What lies below -/

theorem prefix_enter {dirs : List (List Char)} {piece : List Char} (h : dots piece ≠ some 2) :
    dirs <+: enter dirs piece := by
  by_cases hstay : dots piece = some 1
  · exact ⟨[], by rw [List.append_nil, enter_stay hstay]⟩
  · exact ⟨[piece], (enter_down h hstay).symm⟩

/-- Without a double dot nothing leads up. -/
theorem prefix_walk {ps : List (List Char)} (h : ∀ piece ∈ ps, dots piece ≠ some 2) (dirs : List (List Char)) :
    dirs <+: (walk dirs ps).dirs := by
  induction ps generalizing dirs with
  | nil => exact List.prefix_rfl
  | cons piece rest ih =>
    have hpiece := h piece List.mem_cons_self
    cases rest with
    | nil =>
      by_cases hstay : dots piece = some 1
      · exact ⟨[], by rw [List.append_nil, walk, arrive_stay hstay]⟩
      · exact ⟨[], by rw [List.append_nil, walk, arrive_down hpiece hstay]⟩
    | cons next rest =>
      exact (prefix_enter hpiece).trans (ih (fun p hp => h p (List.mem_cons_of_mem _ hp)) _)

theorem splitOn_dirs {dirs : List (List Char)} (hdirs : ∀ dir ∈ dirs, '/' ∉ dir) (more : List Char) :
    Text.splitOn '/' (dirs.flatMap (· ++ ['/']) ++ more) = dirs ++ Text.splitOn '/' more := by
  induction dirs with
  | nil => rfl
  | cons dir dirs ih =>
    rw [List.flatMap_cons, List.append_assoc, List.append_assoc, List.singleton_append,
      Text.splitOn_append (hdirs dir List.mem_cons_self), ih fun d hd => hdirs d (List.mem_cons_of_mem _ hd),
      List.cons_append]

/-- A path begins with the text of directories exactly when it leads through them first. -/
theorem dirText_prefix_text {dirs : List (List Char)} {t : Trail} (hdirs : ∀ dir ∈ dirs, '/' ∉ dir)
    (htdirs : ∀ dir ∈ t.dirs, '/' ∉ dir) (hname : '/' ∉ t.name) : dirText dirs <+: t.text ↔ dirs <+: t.dirs := by
  constructor
  · rintro ⟨rest, hrest⟩
    rw [Trail.text, dirText, dirText, List.cons_append, List.cons_append, List.cons.injEq] at hrest
    have hpieces := congrArg (Text.splitOn '/') hrest.2
    rw [splitOn_dirs hdirs, splitOn_dirs htdirs, Text.splitOn_of_notMem hname] at hpieces
    rcases List.eq_nil_or_concat (Text.splitOn '/' rest) with hnil | ⟨more, last, hmore⟩
    · exact absurd hnil (Text.splitOn_ne_nil '/' rest)
    · rw [hmore, List.concat_eq_append, ← List.append_assoc] at hpieces
      exact ⟨more, (List.append_inj' hpieces rfl).1⟩
  · rintro ⟨more, hmore⟩
    refine ⟨more.flatMap (· ++ ['/']) ++ t.name, ?_⟩
    rw [Trail.text, ← hmore, dirText, dirText, List.flatMap_append]
    simp

end IssueTracker.Url
