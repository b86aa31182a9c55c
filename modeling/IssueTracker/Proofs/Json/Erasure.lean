import IssueTracker.Proofs.Json.Places
/-!
# What is left of a document

Looking up a path in a document from which other paths were taken. One member is kept or dropped on its own,
whatever its neighbours are, so that two removals can change places and a second one of the same path finds
nothing to do.
-/

namespace IssueTracker.Json

/-- A member as it is left in its object when what is below a key is taken out, if it is left at all. -/
def eraseIn (key : String) (keys : List String) (member : String × Json) : Option (String × Json) :=
  if member.1 = key then if keys = [] then none else some (member.1, erasePath keys member.2) else some member

theorem eraseIn_of_ne {name key : String} (h : name ≠ key) (keys : List String) (value : Json) :
    eraseIn key keys (name, value) = some (name, value) := if_neg h

theorem eraseIn_end (name : String) (value : Json) : eraseIn name [] (name, value) = none := by
  simp [eraseIn]

theorem eraseIn_below {keys : List String} (h : keys ≠ []) (name : String) (value : Json) :
    eraseIn name keys (name, value) = some (name, erasePath keys value) := by
  rw [eraseIn, if_pos rfl, if_neg h]

theorem erasePath_obj (key : String) (keys : List String) (members : List (String × Json)) :
    erasePath (key :: keys) (.obj members) = .obj (members.filterMap (eraseIn key keys)) := by
  cases keys with
  | nil =>
    rw [erasePath, Json.obj.injEq, ← List.filterMap_eq_filter]
    refine List.filterMap_congr fun member _ => ?_
    by_cases hkey : member.1 = key <;> simp [eraseIn, Option.guard, hkey]
  | cons next keys =>
    have heach : eraseIn key (next :: keys) = some ∘ fun member : String × Json =>
        if member.1 = key then (member.1, erasePath (next :: keys) member.2) else member := by
      funext member
      rw [eraseIn, if_neg (List.cons_ne_nil next keys), Function.comp_apply]
      split <;> rfl
    rw [heach, List.filterMap_eq_map]
    rfl

theorem obj_or_not (doc : Json) : (∃ members, doc = .obj members) ∨ ∀ members, doc ≠ .obj members :=
  or_iff_not_imp_left.2 not_exists.1

theorem erasePath_of_not_obj (keys : List String) {doc : Json} (h : ∀ members, doc ≠ .obj members) :
    erasePath keys doc = doc :=
  (erasePath_eq_assignPath keys doc).trans (assignPath_of_not_obj none keys h)

/-- Removing from an object leaves an object. -/
theorem erasePath_isObj (keys : List String) (members : List (String × Json)) :
    ∃ left, erasePath keys (.obj members) = .obj left := by
  cases keys with
  | nil => exact ⟨members, rfl⟩
  | cons key keys => exact ⟨_, erasePath_obj key keys members⟩

/-! ## Two removals -/

theorem eraseIn_comm {keys : List String}
    (ih : ∀ others doc, erasePath keys (erasePath others doc) = erasePath others (erasePath keys doc))
    (key other : String) (others : List String) (member : String × Json) :
    (eraseIn other others member).bind (eraseIn key keys) =
      (eraseIn key keys member).bind (eraseIn other others) := by
  obtain ⟨name, value⟩ := member
  by_cases hkey : name = key
  · subst key
    by_cases hother : name = other
    · subst other
      rcases eq_or_ne keys [] with rfl | hkeys <;> rcases eq_or_ne others [] with rfl | hothers
      · rfl
      · simp [eraseIn_end, eraseIn_below hothers]
      · simp [eraseIn_end, eraseIn_below hkeys]
      · simp [eraseIn_below hkeys, eraseIn_below hothers, ih]
    · rcases eq_or_ne keys [] with rfl | hkeys
      · simp [eraseIn_end, eraseIn_of_ne hother]
      · simp [eraseIn_below hkeys, eraseIn_of_ne hother]
  · by_cases hother : name = other
    · subst other
      rcases eq_or_ne others [] with rfl | hothers
      · simp [eraseIn_end, eraseIn_of_ne hkey]
      · simp [eraseIn_below hothers, eraseIn_of_ne hkey]
    · simp [eraseIn_of_ne hkey, eraseIn_of_ne hother]

/-- Two removals can change places. -/
theorem erasePath_comm (keys others : List String) (doc : Json) :
    erasePath keys (erasePath others doc) = erasePath others (erasePath keys doc) := by
  induction keys generalizing others doc with
  | nil => rfl
  | cons key keys ih =>
    rcases doc.obj_or_not with ⟨members, rfl⟩ | hdoc
    · cases others with
      | nil => rfl
      | cons other others =>
        rw [erasePath_obj, erasePath_obj, erasePath_obj, erasePath_obj, List.filterMap_filterMap,
          List.filterMap_filterMap]
        exact congrArg Json.obj (List.filterMap_congr fun member _ => eraseIn_comm ih key other others member)
    · rw [erasePath_of_not_obj others hdoc, erasePath_of_not_obj _ hdoc, erasePath_of_not_obj others hdoc]

/-- Removing a path again finds nothing to do. -/
theorem erasePath_idem (keys : List String) (doc : Json) :
    erasePath keys (erasePath keys doc) = erasePath keys doc := by
  induction keys generalizing doc with
  | nil => rfl
  | cons key keys ih =>
    rcases doc.obj_or_not with ⟨members, rfl⟩ | hdoc
    · rw [erasePath_obj, erasePath_obj, List.filterMap_filterMap]
      refine congrArg Json.obj (List.filterMap_congr fun ⟨name, value⟩ _ => ?_)
      by_cases hkey : name = key
      · subst key
        rcases eq_or_ne keys [] with rfl | hkeys
        · simp [eraseIn_end]
        · simp [eraseIn_below hkeys, ih]
      · simp [eraseIn_of_ne hkey]
    · rw [erasePath_of_not_obj _ hdoc, erasePath_of_not_obj _ hdoc]

/-! ## Many removals -/

/-- The document without what is at the end of these paths. -/
def erasePaths (paths : List (List String)) (doc : Json) : Json :=
  paths.foldl (fun doc keys => erasePath keys doc) doc

theorem erasePaths_cons (keys : List String) (paths : List (List String)) (doc : Json) :
    erasePaths (keys :: paths) doc = erasePaths paths (erasePath keys doc) := rfl

theorem withoutPaths_eq (doc : Json) (paths : List String) :
    doc.withoutPaths paths = erasePaths (paths.map keysOfPath) doc := by
  rw [erasePaths, List.foldl_map]
  rfl

theorem erasePaths_of_not_obj (paths : List (List String)) {doc : Json} (h : ∀ members, doc ≠ .obj members) :
    erasePaths paths doc = doc := by
  induction paths with
  | nil => rfl
  | cons keys paths ih => rw [erasePaths_cons, erasePath_of_not_obj keys h, ih]

theorem erasePaths_isObj (paths : List (List String)) (members : List (String × Json)) :
    ∃ left, erasePaths paths (.obj members) = .obj left := by
  induction paths generalizing members with
  | nil => exact ⟨members, rfl⟩
  | cons keys paths ih =>
    obtain ⟨next, hnext⟩ := erasePath_isObj keys members
    rw [erasePaths_cons, hnext]
    exact ih next

/-- Paths of no keys name no member. -/
theorem erasePaths_of_nil {paths : List (List String)} (h : ∀ keys ∈ paths, keys = []) (doc : Json) :
    erasePaths paths doc = doc := by
  induction paths with
  | nil => rfl
  | cons keys paths ih =>
    obtain ⟨rfl, hpaths⟩ := List.forall_mem_cons.1 h
    exact ih hpaths

theorem erasePath_erasePaths_comm (keys : List String) (paths : List (List String)) (doc : Json) :
    erasePath keys (erasePaths paths doc) = erasePaths paths (erasePath keys doc) := by
  induction paths generalizing doc with
  | nil => rfl
  | cons first paths ih =>
    rw [erasePaths_cons, erasePaths_cons, ih, erasePath_comm]

theorem erasePaths_comm (paths others : List (List String)) (doc : Json) :
    erasePaths paths (erasePaths others doc) = erasePaths others (erasePaths paths doc) := by
  induction paths generalizing doc with
  | nil => rfl
  | cons keys paths ih =>
    rw [erasePaths_cons, erasePaths_cons, ← ih, erasePath_erasePaths_comm]

/-- A path that is among those that were removed is gone already. -/
theorem erasePath_erasePaths {keys : List String} {paths : List (List String)} (h : keys ∈ paths) (doc : Json) :
    erasePath keys (erasePaths paths doc) = erasePaths paths doc := by
  induction paths generalizing doc with
  | nil => exact absurd h List.not_mem_nil
  | cons first paths ih =>
    rw [erasePaths_cons]
    rcases List.mem_cons.1 h with rfl | h
    · rw [erasePath_erasePaths_comm, erasePath_idem]
    · exact ih h _

theorem erasePaths_erasePaths {paths others : List (List String)} (h : paths ⊆ others) (doc : Json) :
    erasePaths paths (erasePaths others doc) = erasePaths others doc := by
  induction paths with
  | nil => rfl
  | cons keys paths ih =>
    obtain ⟨hkeys, hpaths⟩ := List.cons_subset.1 h
    rw [erasePaths_cons, erasePath_erasePaths hkeys, ih hpaths]

/-- It only matters which paths there are. -/
theorem erasePaths_congr {paths others : List (List String)} (h : ∀ keys, keys ∈ paths ↔ keys ∈ others)
    (doc : Json) : erasePaths paths doc = erasePaths others doc :=
  calc erasePaths paths doc
      = erasePaths others (erasePaths paths doc) :=
        (erasePaths_erasePaths (fun keys hkeys => (h keys).2 hkeys) doc).symm
    _ = erasePaths paths (erasePaths others doc) := erasePaths_comm others paths doc
    _ = erasePaths others doc := erasePaths_erasePaths (fun keys hkeys => (h keys).1 hkeys) doc

/-! ## Looking a path up -/

/-- What is left of a path behind a place: nothing when it does not lead through it. -/
def beyond : List String → List String → List String
  | [], keys => keys
  | _ :: _, [] => []
  | step :: place, key :: keys => if step = key then beyond place keys else []

theorem beyond_eq_nil {place keys : List String} (h : ¬place <+: keys) : beyond place keys = [] := by
  induction place generalizing keys with
  | nil => exact absurd List.nil_prefix h
  | cons step place ih =>
    cases keys with
    | nil => rfl
    | cons key keys =>
      rw [beyond]
      split
      · exact ih fun hstarts => h (List.cons_prefix_cons.2 ⟨‹_›, hstarts⟩)
      · rfl

theorem getPath?_of_not_obj (step : String) (place : List String) {doc : Json}
    (h : ∀ members, doc ≠ .obj members) : getPath? (step :: place) doc = none := by
  cases doc with
  | obj members => exact absurd rfl (h members)
  | _ => rfl

/-- What one path takes from a place: the place itself if it ends at or before it, and otherwise what it
names behind it. -/
theorem getPath?_erasePath {keys : List String} (hkeys : keys ≠ []) (place : List String) (doc : Json) :
    getPath? place (erasePath keys doc) =
      if keys <+: place then none else (getPath? place doc).map (erasePath (beyond place keys)) := by
  induction keys, doc using path_induction generalizing place with
  | here doc => exact absurd rfl hkeys
  | stuck key keys doc hdoc =>
    cases place with
    | nil => simp [getPath?, beyond]
    | cons step place => simp [erasePath_of_not_obj _ hdoc, getPath?_of_not_obj step place hdoc]
  | member key members =>
    cases place with
    | nil => simp [getPath?, beyond]
    | cons step place =>
      rw [erasePath_eq_assignPath, assignPath_member, getPath?, getPath?, get?, get?, Table.get?_assign]
      by_cases hstep : step = key
      · simp [hstep]
      · have hbeyond : beyond (step :: place) [key] = [] := if_neg hstep
        rw [if_neg hstep, if_neg (by simp [Ne.symm hstep]), hbeyond]
        exact Option.map_id'.symm
  | below key next keys members ih =>
    cases place with
    | nil => simp [getPath?, beyond]
    | cons step place =>
      have hbelow : erasePath (key :: next :: keys) (.obj members) =
          .obj (Table.modify key (erasePath (next :: keys)) members) := rfl
      rw [hbelow, getPath?, getPath?, get?, get?, Table.get?_modify]
      by_cases hstep : step = key
      · subst hstep
        rw [if_pos rfl, beyond, if_pos rfl, Option.bind_map, Option.map_bind]
        simp only [List.cons_prefix_cons, true_and]
        cases Table.get? step members with
        | none => simp
        | some inner => exact ih inner (List.cons_ne_nil next keys) place
      · have hbeyond : beyond (step :: place) (key :: next :: keys) = [] := if_neg hstep
        rw [if_neg hstep, if_neg (by simp [Ne.symm hstep]), hbeyond]
        exact Option.map_id'.symm

theorem getPath?_erasePaths {paths : List (List String)} (h : [] ∉ paths) (place : List String) (doc : Json) :
    getPath? place (erasePaths paths doc) =
      if ∃ keys ∈ paths, keys <+: place then none
      else (getPath? place doc).map (erasePaths (paths.map (beyond place))) := by
  induction paths generalizing doc with
  | nil =>
    rw [if_neg (by simp)]
    exact Option.map_id'.symm
  | cons keys paths ih =>
    obtain ⟨hkeys, hpaths⟩ := not_or.1 (List.mem_cons.not.1 h)
    rw [erasePaths_cons, ih hpaths, getPath?_erasePath (Ne.symm hkeys)]
    by_cases hstarts : keys <+: place
    · simp [hstarts]
    · simp only [List.exists_mem_cons_iff, hstarts, false_or, if_false, Option.map_map, List.map_cons]
      rfl

/-! ## The named members and nothing else -/

theorem keysOfPath_ne_nil (path : String) : keysOfPath path ≠ [] :=
  fun h => Text.splitOn_ne_nil '.' path.toList (List.map_eq_nil_iff.1 h)

/-- What is at a place of a document that was stripped: nothing where one of the paths ends at or before the
place, and otherwise what was there, stripped of what the paths name behind the place. -/
theorem getPath?_withoutPaths (doc : Json) (paths : List String) (place : List String) :
    (doc.withoutPaths paths).getPath? place =
      if ∃ path ∈ paths, keysOfPath path <+: place then none
      else (doc.getPath? place).map (erasePaths (paths.map fun path => beyond place (keysOfPath path))) := by
  have hnil : [] ∉ paths.map keysOfPath := by
    intro hmem
    obtain ⟨path, -, hpath⟩ := List.mem_map.1 hmem
    exact keysOfPath_ne_nil path hpath
  rw [withoutPaths_eq, getPath?_erasePaths hnil, List.map_map]
  simp only [List.mem_map, exists_exists_and_eq_and]
  rfl

/-- What is no object is kept whole or goes whole. -/
theorem getPath?_withoutPaths_eq_some_iff (doc : Json) (paths : List String) (place : List String) {value : Json}
    (hvalue : ∀ members, value ≠ .obj members) :
    (doc.withoutPaths paths).getPath? place = some value ↔
      doc.getPath? place = some value ∧ ∀ path ∈ paths, ¬keysOfPath path <+: place := by
  rw [getPath?_withoutPaths]
  split
  · rename_i h
    obtain ⟨path, hpath, hstarts⟩ := h
    exact ⟨nofun, fun hall => absurd hstarts (hall.2 path hpath)⟩
  · rename_i h
    have hnone : ∀ path ∈ paths, ¬keysOfPath path <+: place :=
      fun path hpath hstarts => h ⟨path, hpath, hstarts⟩
    rw [Option.map_eq_some_iff, and_iff_left hnone]
    constructor
    · rintro ⟨old, hold, hleft⟩
      rcases old.obj_or_not with ⟨members, rfl⟩ | hobj
      · obtain ⟨left, hobj⟩ := erasePaths_isObj _ members
        exact absurd (hleft.symm.trans hobj) (hvalue left)
      · rwa [← hleft, erasePaths_of_not_obj _ hobj]
    · exact fun hold => ⟨value, hold, erasePaths_of_not_obj _ hvalue⟩

/-- Stripping a document removes exactly the members that the paths name. At a place at or below the end of a
path nothing is found; at a place that no path leads through, before or behind it, the same is found as before;
nothing is found where nothing was; and whatever is no object, an array with all that is in it as well, is kept
as it is until a path takes it as a whole. The order of the paths and how often one is listed do not matter,
and a second time nothing is left to do. -/
theorem withoutPaths_exact (doc : Json) (paths : List String) :
    (∀ place, (∃ path ∈ paths, keysOfPath path <+: place) → (doc.withoutPaths paths).getPath? place = none) ∧
    (∀ place, (∀ path ∈ paths, ¬keysOfPath path <+: place ∧ ¬place <+: keysOfPath path) →
      (doc.withoutPaths paths).getPath? place = doc.getPath? place) ∧
    (∀ place, doc.getPath? place = none → (doc.withoutPaths paths).getPath? place = none) ∧
    (∀ place value, (∀ members, value ≠ .obj members) →
      ((doc.withoutPaths paths).getPath? place = some value ↔
        doc.getPath? place = some value ∧ ∀ path ∈ paths, ¬keysOfPath path <+: place)) ∧
    (∀ others : List String, (∀ path, path ∈ others ↔ path ∈ paths) →
      doc.withoutPaths others = doc.withoutPaths paths) ∧
    (doc.withoutPaths paths).withoutPaths paths = doc.withoutPaths paths := by
  refine ⟨fun place hnamed => ?_, fun place hapart => ?_, fun place hnone => ?_, fun place value hvalue => ?_,
    fun others hsame => ?_, ?_⟩
  · rw [getPath?_withoutPaths, if_pos hnamed]
  · have hnamed : ¬∃ path ∈ paths, keysOfPath path <+: place :=
      fun ⟨path, hpath, hstarts⟩ => (hapart path hpath).1 hstarts
    have hbeyond : ∀ keys ∈ paths.map fun path => beyond place (keysOfPath path), keys = [] := by
      intro keys hkeys
      obtain ⟨path, hpath, rfl⟩ := List.mem_map.1 hkeys
      exact beyond_eq_nil (hapart path hpath).2
    rw [getPath?_withoutPaths, if_neg hnamed, funext (erasePaths_of_nil hbeyond)]
    exact Option.map_id'
  · rw [getPath?_withoutPaths, hnone]
    exact ite_self none
  · exact getPath?_withoutPaths_eq_some_iff doc paths place hvalue
  · rw [withoutPaths_eq, withoutPaths_eq]
    refine erasePaths_congr (fun keys => ?_) doc
    simp only [List.mem_map, hsame]
  · rw [withoutPaths_eq, withoutPaths_eq]
    exact erasePaths_erasePaths (List.Subset.refl _) doc

/-- A document with a member below which one path goes on, and with an array that another path runs into. -/
def nested : Json :=
  .obj [("a", .obj [("b", .obj [("x", .bool true)]), ("c", .arr [.obj [("b", .null)]]), ("d", .null)]),
    ("e", .str "")]

theorem withoutPaths_exact_nested :
    (nested.withoutPaths ["a.b.x", "a.b", "a.c.b", "e.f"]).getPath? ["a", "b", "x"] = none ∧
    (nested.withoutPaths ["a.b.x", "a.b", "a.c.b", "e.f"]).getPath? ["a", "d"] = some .null ∧
    (nested.withoutPaths ["a.b.x", "a.b", "a.c.b", "e.f"]).getPath? ["b"] = none ∧
    (nested.withoutPaths ["a.b.x", "a.b", "a.c.b", "e.f"]).getPath? ["a", "c"] =
      some (.arr [.obj [("b", .null)]]) ∧
    nested.withoutPaths ["e.f", "a.b", "a.c.b", "a.b", "a.b.x"] =
      nested.withoutPaths ["a.b.x", "a.b", "a.c.b", "e.f"] := by
  obtain ⟨hgone, hapart, hnone, hwhole, horder, -⟩ :=
    withoutPaths_exact nested ["a.b.x", "a.b", "a.c.b", "e.f"]
  exact ⟨hgone ["a", "b", "x"] (by decide +kernel), (hapart ["a", "d"] (by decide +kernel)).trans rfl,
    hnone ["b"] rfl, (hwhole ["a", "c"] (.arr _) (by simp)).2 ⟨rfl, by decide +kernel⟩,
    horder _ (by simp; tauto)⟩

end IssueTracker.Json
