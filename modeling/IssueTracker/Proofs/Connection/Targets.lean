import IssueTracker.Connection
import IssueTracker.Proofs.Url.Address
import IssueTracker.Proofs.Url.Form
/-!
# Where requests go

A connection keeps the scheme and authority of the address in the settings. Its root is the interface
below the completed path of that address, and a request whose path is made of plain names goes below
the root, with its parameters as the query and nothing else: `requests_below_address`.
-/

namespace IssueTracker

/-- A name of ASCII letters, digits, hyphens and underscores. -/
def IsPlainName (name : List Char) : Prop := name ≠ [] ∧ ∀ c ∈ name, c.isAlphanum = true ∨ c = '-' ∨ c = '_'

instance (name : List Char) : Decidable (IsPlainName name) :=
  @instDecidableAnd _ _ inferInstance (List.decidableBAll _ name)

/-- Whether the path of a request is made of plain names with slashes between them. -/
def Request.IsPlain (r : Request) : Prop :=
  ∃ names : List (List Char), r.path.toList = Text.joinWith ['/'] names ∧ ∀ name ∈ names, IsPlainName name

namespace Connection

open Url

/-! ## Plain names -/

section Plain

variable {c : Char} (h : c.isAlphanum = true ∨ c = '-' ∨ c = '_')

include h

theorem range_of_plain : 0x20 < c.val ∧ c.val < 0x7F := by
  rcases h with h | rfl | rfl
  · have hranges : ((decide (65 ≤ c.val ∧ c.val ≤ 90) || (decide (97 ≤ c.val) && decide (c.val ≤ 122))) ||
        (decide (48 ≤ c.val) && decide (c.val ≤ 57))) = true := h
    simp only [Bool.or_eq_true, Bool.and_eq_true, decide_eq_true_eq, UInt32.le_iff_toNat_le,
      UInt32.reduceToNat] at hranges
    rw [UInt32.lt_iff_toNat_lt, UInt32.lt_iff_toNat_lt]
    simp only [UInt32.reduceToNat]
    omega
  · decide
  · decide

theorem ne_of_plain {d : Char} (hd : ¬(d.isAlphanum = true ∨ d = '-' ∨ d = '_')) : c ≠ d := by
  rintro rfl
  exact hd h

theorem inPathSet_of_plain : inPathSet c = false := by
  obtain ⟨hlow, hhigh⟩ := range_of_plain h
  have hset : ∀ d ∈ [' ', '"', '<', '>', '`', '#', '?', '\x7b', '\x7d'], c ≠ d := by
    intro d hd
    refine ne_of_plain h ?_
    simp only [List.mem_cons, List.not_mem_nil, or_false] at hd
    rcases hd with rfl | rfl | rfl | rfl | rfl | rfl | rfl | rfl | rfl <;> decide
  simp [inPathSet, inFragmentSet, isControl] at hset ⊢
  simp [hset, UInt32.le_of_lt hlow, hhigh]

end Plain

theorem settled_of_plain {name : List Char} (h : IsPlainName name) : Settled name := by
  have hdots : dots name = none := by
    obtain ⟨c, name, rfl⟩ := List.exists_cons_of_ne_nil h.1
    have hc := h.2 c List.mem_cons_self
    have hdot : c ≠ '.' := ne_of_plain hc (by decide)
    have hpercent : c ≠ '%' := ne_of_plain hc (by decide)
    unfold dots
    split <;> simp_all
  refine ⟨fun c hc => ?_, by simp [hdots], by simp [hdots]⟩
  have hplain := h.2 c hc
  exact ⟨inPathSet_of_plain hplain, ne_of_plain hplain (by decide), ne_of_plain hplain (by decide)⟩

theorem kind_of_isReachable {u : Url} (h : isReachable u = true) : u.kind = .special := by
  have hscheme : "http".toList = u.scheme ∨ "https".toList = u.scheme := by simpa [isReachable] using h
  rw [kind]
  rcases hscheme with h | h <;> (rw [← h]; decide)

/-! ## The root -/

/-- The root of a connection to an address. -/
def rootOf (u : Url) : Url :=
  { u with path := closePath u.path ++ interfacePath.toList, query := none, fragment := none }

/-- The names of the interface below an address. -/
def interfaceDirs : List (List Char) := [['r', 'e', 's', 't'], ['a', 'p', 'i'], ['2']]

theorem settled_interfaceDirs : ∀ dir ∈ interfaceDirs, Settled dir := by
  have hplain : ∀ dir ∈ interfaceDirs, IsPlainName dir := by decide
  exact fun dir hdir => settled_of_plain (hplain dir hdir)

section Root

variable {s : Settings} {u : Url}

theorem baseUrl_eq (h : Url.parse s.url = .ok u) (hkind : u.kind = .special) :
    s.baseUrl = .ok { u with path := closePath u.path } := by
  obtain ⟨hauthority, t, ht, hpath⟩ := exists_trail h hkind
  rw [Settings.baseUrl, h]
  simp only [Except.map]
  split
  · rename_i hclosed
    rw [closePath, if_pos hclosed]
  · rename_i hopen
    rw [setPath_closed hkind hauthority ht hpath hopen]

/-- The root of a connection is a directory of names that are read as themselves. -/
theorem exists_dirs_rootOf (h : Url.parse s.url = .ok u) (hkind : u.kind = .special) :
    ∃ dirs, (∀ dir ∈ dirs, Settled dir) ∧ closePath u.path = dirText dirs ∧
      (rootOf u).path = dirText (dirs ++ interfaceDirs) := by
  obtain ⟨-, t, ht, hpath⟩ := exists_trail h hkind
  have hclosed : closePath u.path = dirText t.closed := by rw [hpath, closePath_text ht.name.slashFree]
  refine ⟨t.closed, ht.closed, hclosed, ?_⟩
  rw [rootOf, hclosed, dirText, dirText, List.flatMap_append, List.cons_append]
  rfl

/-- Settings whose address has one of the schemes of the web describe a connection to the interface below it. -/
theorem ofSettings_eq (h : Url.parse s.url = .ok u) (hkind : u.kind = .special) :
    ofSettings s = .ok ⟨rootOf u, credentialsOf s⟩ := by
  obtain ⟨dirs, hdirs, hclosed, hroot⟩ := exists_dirs_rootOf h hkind
  have htext : clean interfacePath.toList = 'r' :: ['e', 's', 't', '/', 'a', 'p', 'i', '/', '2', '/'] := by decide
  have hwalk : (walk dirs (PathRules.pieces ⟨.special, true⟩
      ('r' :: ['e', 's', 't', '/', 'a', 'p', 'i', '/', '2', '/']))).text =
      dirText (dirs ++ interfaceDirs) := by
    have hpieces : PathRules.pieces ⟨.special, true⟩ ('r' :: ['e', 's', 't', '/', 'a', 'p', 'i', '/', '2', '/']) =
        interfaceDirs ++ [[]] := by decide
    rw [hpieces, walk_settled settled_interfaceDirs settled_nil, Trail.text, List.append_nil]
  have hjoin := join_dirText (u := { u with path := closePath u.path }) hkind (exists_trail h hkind).1 hclosed
    (fun dir hdir => (hdirs dir hdir).slashFree) htext (by decide) (by decide)
  rw [hwalk, ← hroot] at hjoin
  rw [ofSettings, baseUrl_eq h hkind, Except.bind, hjoin]
  rfl

end Root

/-! ## Requests -/

/-- What a request below an address asks for. -/
structure Targets (u : Url) (r : Request) (url : Url) : Prop where
  scheme : url.scheme = u.scheme
  host : url.authority.map Authority.host = u.authority.map Authority.host
  port : url.authority.map Authority.port = u.authority.map Authority.port
  path : url.path = closePath u.path ++ interfacePath.toList ++ r.path.toList
  fragment : url.fragment = none
  query : url.query.isSome = true ↔ r.params ≠ []
  params : Form.decodePairs (url.query.getD []) = r.params

section Requests

variable {names : List (List Char)} (hnames : ∀ name ∈ names, IsPlainName name)

include hnames

theorem plain_or_slash {c : Char} (hc : c ∈ Text.joinWith ['/'] names) :
    c = '/' ∨ c.isAlphanum = true ∨ c = '-' ∨ c = '_' := by
  rcases Text.mem_joinWith hc with hc | ⟨name, hname, hc⟩
  · exact .inl (List.mem_singleton.1 hc)
  · exact .inr ((hnames name hname).2 c hc)

theorem ne_of_mem_joinWith {c d : Char} (hc : c ∈ Text.joinWith ['/'] names) (hslash : d ≠ '/')
    (hd : ¬(d.isAlphanum = true ∨ d = '-' ∨ d = '_')) : c ≠ d := by
  rcases plain_or_slash hnames hc with rfl | hplain
  · exact hslash.symm
  · exact ne_of_plain hplain hd

theorem exists_cons_of_plain (hne : names ≠ []) :
    ∃ c cs, Text.joinWith ['/'] names = c :: cs ∧ (c.isAlphanum = true ∨ c = '-' ∨ c = '_') := by
  obtain ⟨first, rest, rfl⟩ := List.exists_cons_of_ne_nil hne
  obtain ⟨hfirst, hplain⟩ := hnames first List.mem_cons_self
  obtain ⟨c, first, rfl⟩ := List.exists_cons_of_ne_nil hfirst
  cases rest with
  | nil => exact ⟨c, first, rfl, hplain c List.mem_cons_self⟩
  | cons next rest => exact ⟨c, _, rfl, hplain c List.mem_cons_self⟩

/-- The way along plain names is written as they are. -/
theorem walk_plain (hne : names ≠ []) (dirs : List (List Char)) :
    (walk dirs (PathRules.pieces ⟨.special, true⟩ (Text.joinWith ['/'] names))).text =
      dirText dirs ++ Text.joinWith ['/'] names := by
  rw [pieces_joinWith hne fun name hname => (settled_of_plain (hnames name hname)).kept]
  rcases List.eq_nil_or_concat names with hnil | ⟨above, last, hlast⟩
  · exact absurd hnil hne
  · rw [List.concat_eq_append] at hlast
    subst hlast
    rw [walk_settled (fun name hname => settled_of_plain (hnames name (List.mem_append_left _ hname)))
      (settled_of_plain (hnames last (by simp))), Trail.text, dirText, dirText, List.flatMap_append,
      ← flatMap_eq_joinWith]
    simp

/-- Plain names lead on from directories and leave nothing behind. -/
theorem join_plain {u : Url} {dirs : List (List Char)} (hkind : u.kind = .special)
    (hauthority : u.authority.isSome = true) (hpath : u.path = dirText dirs) (hdirs : ∀ dir ∈ dirs, '/' ∉ dir)
    {text : String} (htext : text.toList = Text.joinWith ['/'] names) (hne : names ≠ []) :
    u.join text = .ok { u with path := u.path ++ text.toList, query := none, fragment := none } := by
  have hchars : ∀ c ∈ text.toList, 0x20 < c.val := by
    intro c hc
    rcases plain_or_slash hnames (htext ▸ hc) with rfl | hplain
    · decide
    · exact (range_of_plain hplain).1
  have hfree : ∀ {d : Char}, d ≠ '/' → ¬(d.isAlphanum = true ∨ d = '-' ∨ d = '_') → ∀ c ∈ text.toList, c ≠ d :=
    fun hslash hd c hc => ne_of_mem_joinWith hnames (htext ▸ hc) hslash hd
  obtain ⟨c, cs, hcs, hc⟩ := exists_cons_of_plain hnames hne
  rw [← htext] at hcs
  have hcolon : ':' ∉ (c :: cs).takeWhile (· ≠ '/') := by
    intro hmem
    have hmem' : ':' ∈ text.toList := hcs ▸ (List.takeWhile_sublist _).subset hmem
    exact hfree (by decide) (by decide) ':' hmem' rfl
  have hends : ∀ d ∈ c :: cs, (!PathRules.ends ⟨.special, true⟩ d) = true := by
    intro d hd
    rw [← hcs] at hd
    have hquery : d ≠ '?' := hfree (by decide) (by decide) d hd
    have hhash : d ≠ '#' := hfree (by decide) (by decide) d hd
    simp [PathRules.ends, hquery, hhash]
  have hwalk : (walk dirs (PathRules.pieces ⟨.special, true⟩ (c :: cs))).text = dirText dirs ++ text.toList := by
    rw [← hcs, htext, walk_plain hnames hne]
  rw [join_dirText hkind hauthority hpath hdirs (by rw [clean_of_all hchars, hcs])
    ⟨ne_of_plain hc (by decide), ne_of_plain hc (by decide), ne_of_plain hc (by decide),
      ne_of_plain hc (by decide)⟩ hcolon,
    hwalk, List.dropWhile_eq_nil_iff.2 hends, hpath]
  rfl

end Requests

theorem urlFor_eq {s : Settings} {u : Url} (h : Url.parse s.url = .ok u) (hkind : u.kind = .special) {r : Request}
    (hr : r.IsPlain) (credentials : Option Credentials) :
    urlFor ⟨rootOf u, credentials⟩ r =
      .ok (addParameters { rootOf u with path := (rootOf u).path ++ r.path.toList } r.params) := by
  obtain ⟨dirs, hdirs, -, hroot⟩ := exists_dirs_rootOf h hkind
  obtain ⟨names, hpath, hnames⟩ := hr
  by_cases hne : names = []
  · subst hne
    have hempty : r.path = "" := String.toList_injective hpath
    have hjoin : (rootOf u).join "" = .ok (rootOf u) := join_empty hkind (exists_trail h hkind).1
    rw [urlFor, hempty, hjoin, String.toList_empty, List.append_nil]
    rfl
  · have hslashFree : ∀ dir ∈ dirs ++ interfaceDirs, '/' ∉ dir := by
      intro dir hdir
      rcases List.mem_append.1 hdir with hdir | hdir
      · exact (hdirs dir hdir).slashFree
      · exact (settled_interfaceDirs dir hdir).slashFree
    rw [urlFor, join_plain (u := rootOf u) hnames hkind (exists_trail h hkind).1 hroot hslashFree hpath hne]
    rfl

/-! ## Messages -/

section Messages

variable {c : Connection} {r : Request} {url : Url}

theorem credentialsIn_congr {u : Url} (h : url.authority = u.authority) : credentialsIn url = credentialsIn u := by
  simp only [credentialsIn, h]

/-- A message goes where its request does, without a user. -/
theorem message_eq_ok (h : c.urlFor r = .ok url) {m : Http.Message} (hm : c.message r = .ok m) :
    m.method = r.method ∧ (m.url = url ∨ m.url = withoutUser url) := by
  have hsent : (if (credentialsIn url).isSome = true then withoutUser url else url) = url ∨
      (if (credentialsIn url).isSome = true then withoutUser url else url) = withoutUser url := by
    split
    · exact .inr rfl
    · exact .inl rfl
  unfold message at hm
  rw [h] at hm
  dsimp only at hm
  generalize (if (credentialsIn url).isSome = true then withoutUser url else url) = sent at hm hsent
  split at hm
  · cases hm
  · split at hm
    · cases hm
    · obtain rfl := Except.ok.inj hm
      exact ⟨rfl, hsent⟩

theorem isReachable_congr {u : Url} (h : url.scheme = u.scheme) : isReachable url = isReachable u := by
  rw [isReachable, isReachable, h]

/-- A request to a reachable address makes a message unless there are credentials that no header can hold. -/
theorem message_isOk_iff (h : c.urlFor r = .ok url) (hweb : isReachable url = true) :
    (∃ m, c.message r = .ok m) ↔ ∀ credentials ∈ (credentialsIn url).toList ++ c.credentials.toList,
      Http.isHeaderText credentials.header = true := by
  have hreach : isReachable (if (credentialsIn url).isSome = true then withoutUser url else url) = true := by
    split
    · exact hweb
    · exact hweb
  have hheaders : (∀ credentials ∈ (credentialsIn url).toList ++ c.credentials.toList,
      Http.isHeaderText credentials.header = true) ↔
        (((credentialsIn url).toList ++ c.credentials.toList).map Credentials.header).all Http.isHeaderText = true := by
    rw [List.all_map, List.all_eq_true]
    rfl
  unfold message
  rw [h, hheaders]
  dsimp only
  rw [hreach, if_neg (by decide)]
  by_cases hall :
      (((credentialsIn url).toList ++ c.credentials.toList).map Credentials.header).all Http.isHeaderText = true
  · rw [hall, if_neg (by decide)]
    exact ⟨fun _ => rfl, fun _ => ⟨_, rfl⟩⟩
  · rw [if_pos (by rwa [Bool.not_eq_true', ← Bool.not_eq_true])]
    refine ⟨?_, fun h => absurd h hall⟩
    rintro ⟨m, hm⟩
    cases hm

end Messages

/-! ## All requests -/

theorem targets_addParameters (u : Url) (r : Request) :
    Targets u r (addParameters { rootOf u with path := (rootOf u).path ++ r.path.toList } r.params) := by
  by_cases hparams : r.params = []
  · have hkept : ∀ url : Url, addParameters url r.params = url := fun url => by rw [hparams]; rfl
    rw [hkept]
    exact ⟨rfl, rfl, rfl, rfl, rfl, by simp [rootOf, hparams], by rw [hparams]; rfl⟩
  · have hadded : ∀ url : Url, url.query = none →
        addParameters url r.params = { url with query := some (Form.encodePairs r.params) } := by
      intro url hquery
      rw [addParameters, if_neg (by simpa using hparams), hquery]
      rfl
    rw [hadded _ rfl]
    exact ⟨rfl, rfl, rfl, rfl, rfl, by simp [hparams], Form.decodePairs_encodePairs r.params⟩

theorem authority_addParameters (url : Url) (params : List (String × String)) :
    (addParameters url params).authority = url.authority := by
  unfold addParameters
  split <;> rfl

theorem Targets.withoutUser {u url : Url} {r : Request} (h : Targets u r url) : Targets u r (withoutUser url) := by
  refine ⟨h.scheme, ?_, ?_, h.path, h.fragment, h.query, h.params⟩
  · rw [← h.host, Connection.withoutUser, Option.map_map]
    rfl
  · rw [← h.port, Connection.withoutUser, Option.map_map]
    rfl

/-- Settings whose address is one of the web describe a connection. Each request with a path of plain names goes,
as a message too, to the scheme, host and port of the address and to the path of the request below its interface,
with the parameters of the request in the query and without a fragment. How the address is written, with or
without a slash at the end, a query or a fragment, makes no difference, nor does anything else that leaves its
scheme, authority and completed path. -/
theorem requests_below_address (s : Settings) {u : Url} (hu : Url.parse s.url = .ok u) (hweb : isReachable u = true) :
    ∃ c, ofSettings s = .ok c ∧
      (∀ r : Request, r.IsPlain → ∃ url, c.urlFor r = .ok url ∧ Targets u r url ∧
        (∀ m, c.message r = .ok m → m.method = r.method ∧ Targets u r m.url) ∧
        ((∃ m, c.message r = .ok m) ↔ ∀ credentials ∈ (credentialsIn u).toList ++ (credentialsOf s).toList,
          Http.isHeaderText credentials.header = true)) ∧
      (∀ text, SameAddress s.url text → endsBlank s.url = false →
        ofSettings { s with url := text } = .ok c) ∧
      ∀ s' u', Url.parse s'.url = .ok u' → u'.scheme = u.scheme → u'.authority = u.authority →
        closePath u'.path = closePath u.path → credentialsOf s' = credentialsOf s → ofSettings s' = .ok c := by
  have hkind := kind_of_isReachable hweb
  have hsame : ∀ s' u', Url.parse s'.url = .ok u' → u'.scheme = u.scheme → u'.authority = u.authority →
      closePath u'.path = closePath u.path → credentialsOf s' = credentialsOf s →
        ofSettings s' = .ok ⟨rootOf u, credentialsOf s⟩ := by
    intro s' u' hu' hscheme hauthority hpath hcredentials
    have hroot : rootOf u' = rootOf u := by rw [rootOf, rootOf, hscheme, hauthority, hpath]
    rw [ofSettings_eq hu' (by rw [kind, hscheme]; exact hkind), hroot, hcredentials]
  refine ⟨⟨rootOf u, credentialsOf s⟩, ofSettings_eq hu hkind, fun r hr => ?_, fun text htext hend => ?_, hsame⟩
  · have hurl := urlFor_eq hu hkind hr (credentialsOf s)
    have htargets := targets_addParameters u r
    have hauthority : (addParameters { rootOf u with path := (rootOf u).path ++ r.path.toList } r.params).authority =
        u.authority := authority_addParameters _ _
    generalize addParameters { rootOf u with path := (rootOf u).path ++ r.path.toList } r.params = url
      at hurl htargets hauthority
    refine ⟨url, hurl, htargets, fun m hm => ?_, ?_⟩
    · obtain ⟨hmethod, hsent⟩ := message_eq_ok hurl hm
      refine ⟨hmethod, ?_⟩
      rcases hsent with hsent | hsent
      · exact hsent ▸ htargets
      · exact hsent ▸ htargets.withoutUser
    · rw [message_isOk_iff hurl (by rw [isReachable_congr htargets.scheme, hweb]), credentialsIn_congr hauthority]
  · obtain ⟨u', hu', hscheme, hauthority, hpath⟩ := parse_sameAddress htext hend hu hkind
    exact hsame _ u' hu' hscheme hauthority hpath rfl

/-- The address of a tracker on the machine itself. -/
def localAddress : Url :=
  ⟨"http".toList, some ⟨"duke".toList, [], "[::1]".toList, some 8080⟩, "/jira".toList, none, none⟩

theorem parse_localAddress : Url.parse "http://duke@[::1]:8080/jira" = .ok localAddress := by decide +kernel

/-- An id with characters that separate parameters or stand for others. -/
theorem requests_below_address_removal :
    let s := { Settings.standard with url := "http://duke@[::1]:8080/jira" }
    let r := (Request.delete "issue/X-1/remotelink").param "globalId" "a&b=c#50%+d é"
    Url.parse s.url = .ok localAddress ∧ isReachable localAddress = true ∧ r.IsPlain ∧
      SameAddress s.url "http://duke@[::1]:8080/jira/" ∧
      ∃ c url m, ofSettings s = .ok c ∧ c.urlFor r = .ok url ∧ Targets localAddress r url ∧ c.message r = .ok m ∧
        Targets localAddress r m.url ∧ ofSettings { s with url := "http://duke@[::1]:8080/jira/" } = .ok c := by
  intro s r
  have hplain : r.IsPlain := ⟨["issue".toList, "X-1".toList, "remotelink".toList], by decide, by decide⟩
  have hsame : SameAddress s.url "http://duke@[::1]:8080/jira/" := .slash (by decide) (by decide)
  obtain ⟨c, hc, hall, hwritten, -⟩ := requests_below_address s parse_localAddress (by decide)
  obtain ⟨url, hurl, htargets, hmessage, hsent⟩ := hall r hplain
  obtain ⟨m, hm⟩ := hsent.2 (by decide +kernel)
  exact ⟨parse_localAddress, by decide, hplain, hsame, c, url, m, hc, hurl, htargets, hm, (hmessage m hm).2,
    hwritten _ hsame (by decide)⟩

end Connection

end IssueTracker
