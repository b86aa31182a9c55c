import IssueTracker.Proofs.Connection.Targets
import IssueTracker.Proofs.Sends
/-!
# Where looking up an issue goes

The id of an issue becomes part of a path as it is. So its separators and dots count: each piece that
is a double dot, encoded or not, leads a directory up, past the issues and past the interface itself.
The request stays below the issues exactly when the way along its pieces ends below them, and always
when none of them is a double dot.
-/

namespace IssueTracker

open Url

/-- The pieces of the path that an id gives. -/
def idPieces (id : String) : List (List Char) := PathRules.pieces ⟨.special, true⟩ (cleanEnd id.toList)

theorem idPieces_ne_nil (id : String) : idPieces id ≠ [] := pieces_ne_nil _

namespace Connection

/-- The directory of issues below directories. -/
def issueDirs (dirs : List (List Char)) : List (List Char) := dirs ++ ["issue".toList]

theorem settled_issue : Settled "issue".toList := settled_of_plain (by decide)

theorem settled_issueDirs {dirs : List (List Char)} (h : ∀ dir ∈ dirs, Settled dir) :
    ∀ dir ∈ issueDirs dirs, Settled dir := by
  intro dir hdir
  rcases List.mem_append.1 hdir with hdir | hdir
  · exact h dir hdir
  · rw [List.mem_singleton.1 hdir]
    exact settled_issue

/-- A path below the issues leads wherever its pieces do. -/
theorem join_issue {u : Url} {dirs : List (List Char)} (hkind : u.kind = .special)
    (hauthority : u.authority.isSome = true) (hpath : u.path = dirText dirs) (hdirs : ∀ dir ∈ dirs, Settled dir)
    (id : String) :
    ∃ rest, u.join ("issue/" ++ id) =
      .ok (withRest { u with path := (walk (issueDirs dirs) (idPieces id)).text } rest) := by
  have htext : clean ("issue/" ++ id).toList = 'i' :: ("ssue/".toList ++ cleanEnd id.toList) := by
    rw [String.toList_append]
    exact clean_append (c := '/') (by decide) "issue".toList id.toList
  have hpieces : PathRules.pieces ⟨.special, true⟩ ('i' :: ("ssue/".toList ++ cleanEnd id.toList)) =
      "issue".toList :: idPieces id :=
    pieces_append_slash settled_issue.kept (cleanEnd id.toList)
  have hcolon : ':' ∉ ('i' :: ("ssue/".toList ++ cleanEnd id.toList)).takeWhile (· ≠ '/') := by
    have hname : ('i' :: ("ssue/".toList ++ cleanEnd id.toList)).takeWhile (· ≠ '/') = "issue".toList := rfl
    rw [hname]
    decide
  have hjoin := join_dirText hkind hauthority hpath (fun dir hdir => (hdirs dir hdir).slashFree) htext
    (by decide) hcolon
  rw [hpieces, walk_cons (idPieces_ne_nil id), enter_down (by decide) (by decide)] at hjoin
  exact ⟨_, hjoin⟩

/-- Looking up an issue makes a request to the scheme and authority of the address, whose path leads on from the
issues of its interface along the pieces of the id. It stays below the issues exactly when that way ends below
them, as it does when no piece is a double dot. -/
theorem issue_stays_below_iff (s : Settings) {u : Url} (hu : Url.parse s.url = .ok u) (hweb : isReachable u = true)
    (id : String) :
    ∃ c dirs, ofSettings s = .ok c ∧ c.root.path = closePath u.path ++ interfacePath.toList ∧
      c.root.path = dirText dirs ∧
      (∀ dir ∈ dirs, '/' ∉ dir) ∧
      (Project.issue id).Sends fun r => ∃ url, c.urlFor r = .ok url ∧ url.scheme = u.scheme ∧
        url.authority = u.authority ∧
        url.path = (walk (issueDirs dirs) (idPieces id)).text ∧
        (c.root.path ++ "issue/".toList <+: url.path ↔ issueDirs dirs <+: (walk (issueDirs dirs) (idPieces id)).dirs) ∧
        ((∀ piece ∈ idPieces id, dots piece ≠ some 2) → c.root.path ++ "issue/".toList <+: url.path) ∧
        ∀ m, c.message r = .ok m → m.url = url ∨ m.url = withoutUser url := by
  have hkind := kind_of_isReachable hweb
  obtain ⟨dirs, hdirs, -, hroot⟩ := exists_dirs_rootOf hu hkind
  have hall : ∀ dir ∈ dirs ++ interfaceDirs, Settled dir := by
    intro dir hdir
    rcases List.mem_append.1 hdir with hdir | hdir
    · exact hdirs dir hdir
    · exact settled_interfaceDirs dir hdir
  have hissues := settled_issueDirs hall
  have hwalk := settled_walk hissues (kept_pieces (r := ⟨.special, true⟩) rfl (cleanEnd id.toList))
  have hbelow : (rootOf u).path ++ "issue/".toList = dirText (issueDirs (dirs ++ interfaceDirs)) := by
    rw [hroot, issueDirs, dirText_concat]
    rfl
  have hiff := dirText_prefix_text (fun dir hdir => (hissues dir hdir).slashFree)
    (fun dir hdir => (hwalk.dirs dir hdir).slashFree) hwalk.name.slashFree
  obtain ⟨rest, hjoin⟩ := join_issue (u := rootOf u) hkind (exists_trail hu hkind).1 hroot hall id
  have hurl : urlFor ⟨rootOf u, credentialsOf s⟩ ((Request.get ("issue/" ++ id)).onStatus 404 .null) =
      .ok (withRest { rootOf u with path := (walk (issueDirs (dirs ++ interfaceDirs)) (idPieces id)).text } rest) := by
    change ((rootOf u).join ("issue/" ++ id)).map (fun url => addParameters url []) = _
    rw [hjoin]
    rfl
  refine ⟨⟨rootOf u, credentialsOf s⟩, dirs ++ interfaceDirs, ofSettings_eq hu hkind, rfl, hroot,
    fun dir hdir => (hall dir hdir).slashFree, Project.sends_issue_of ?_⟩
  refine ⟨_, hurl, scheme_withRest _ _, authority_withRest _ _, path_withRest _ _, ?_, fun hpieces => ?_,
    fun m hm => (message_eq_ok hurl hm).2⟩
  · rw [path_withRest, hbelow]
    exact hiff
  · rw [path_withRest, hbelow]
    exact hiff.2 (prefix_walk hpieces _)

/-- An id that leads into a directory and out of it again. -/
theorem issue_stays_below_roundabout :
    let s := { Settings.standard with url := "http://duke@[::1]:8080/jira" }
    let id := "open/%2E./X-1?fields#all"
    Url.parse s.url = .ok localAddress ∧ isReachable localAddress = true ∧
    (∃ piece ∈ idPieces id, dots piece = some 2) ∧
      ∃ c, ofSettings s = .ok c ∧ (Project.issue id).Sends fun r => ∃ url, c.urlFor r = .ok url ∧
        c.root.path ++ "issue/".toList <+: url.path := by
  intro s id
  have hpieces : idPieces id = ["open".toList, "%2E.".toList, "X-1".toList] := by decide
  have hwalk : ∀ dirs, walk (issueDirs dirs) (idPieces id) = ⟨issueDirs dirs, "X-1".toList⟩ := by
    intro dirs
    have hup : goUp (issueDirs dirs ++ ["open".toList]) = issueDirs dirs := by
      rw [goUp, List.getLast?_concat, Option.any_some, if_neg (by decide), List.dropLast_concat]
    rw [hpieces]
    change arrive (goUp (issueDirs dirs ++ ["open".toList])) "X-1".toList = _
    rw [hup]
    rfl
  obtain ⟨c, dirs, hc, -, -, -, hsends⟩ := issue_stays_below_iff s parse_localAddress (by decide) id
  refine ⟨parse_localAddress, by decide, ⟨"%2E.".toList, by rw [hpieces]; simp, by decide⟩, c, hc, hsends.mono ?_⟩
  rintro r ⟨url, hurl, -, -, -, hiff, -⟩
  exact ⟨url, hurl, hiff.2 ⟨[], by rw [hwalk, List.append_nil]⟩⟩

/-- An id with more double dots than the interface has directories leads out of the address. -/
theorem issue_leaves_address :
    let s := { Settings.standard with url := "http://duke@[::1]:8080/jira" }
    ∃ c m, ofSettings s = .ok c ∧
      c.message ((Request.get "issue/../../../../../admin").onStatus 404 .null) = .ok m ∧
      m.url.text = "http://[::1]:8080/admin" ∧
      ¬(Project.issue "../../../../../admin").Sends fun r =>
        ∀ m, c.message r = .ok m → c.root.path ++ "issue/".toList <+: m.url.path := by
  intro s
  let c : Connection := ⟨rootOf localAddress, none⟩
  have htext : (c.message ((Request.get "issue/../../../../../admin").onStatus 404 .null)).map (·.url.text) =
      .ok "http://[::1]:8080/admin" := by decide +kernel
  have hpath : (c.message ((Request.get "issue/../../../../../admin").onStatus 404 .null)).map (·.url.path) =
      .ok "/admin".toList := by decide +kernel
  cases hm : c.message ((Request.get "issue/../../../../../admin").onStatus 404 .null) with
  | error e =>
    rw [hm] at htext
    cases htext
  | ok m =>
    rw [hm] at htext hpath
    refine ⟨c, m, ofSettings_eq parse_localAddress (by decide), hm, Except.ok.inj htext, fun h => ?_⟩
    have hadmin : m.url.path = "/admin".toList := Except.ok.inj hpath
    have hbelow := h.1 m hm
    rw [hadmin] at hbelow
    exact absurd hbelow (by decide)

end Connection

end IssueTracker
