import IssueTracker.Proofs.Url.Trail
import IssueTracker.Url.Parser
/-!
# Authorities

The user, host and port of a web URL end where its path, query or fragment begins: text that is put
behind such a URL does not change them.
-/

namespace IssueTracker.Url

/-- Text that begins with a slash, a question mark or a hash. -/
def Delimited (tail : List Char) : Prop := ∃ c rest, tail = c :: rest ∧ (c = '/' ∨ c = '?' ∨ c = '#')

/-- What is read up to a character stops before text that begins with one. -/
theorem takeWhile_append_stop {p : Char → Bool} {c : Char} (hc : p c = false) (cs rest : List Char) :
    (cs ++ c :: rest).takeWhile p = cs.takeWhile p := by
  induction cs with
  | nil => simp [hc]
  | cons d cs ih => rw [List.cons_append, List.takeWhile_cons, List.takeWhile_cons, ih]

theorem dropWhile_append_stop {p : Char → Bool} {c : Char} (hc : p c = false) (cs rest : List Char) :
    (cs ++ c :: rest).dropWhile p = cs.dropWhile p ++ c :: rest := by
  induction cs with
  | nil => simp [hc]
  | cons d cs ih =>
    rw [List.cons_append, List.dropWhile_cons, List.dropWhile_cons, ih]
    split <;> rfl

/-! ## Ports -/

theorem parsePort_append {scheme tail : List Char} (htail : Delimited tail) {cs rest : List Char}
    {value : Nat} {any : Bool} {port : Option Nat} (h : parsePort scheme value any cs = .ok (port, rest)) :
    parsePort scheme value any (cs ++ tail) = .ok (port, rest ++ tail) ∧ rest <:+ cs := by
  induction cs generalizing value any with
  | nil =>
    obtain ⟨c, more, rfl, hc⟩ := htail
    obtain ⟨rfl, rfl⟩ := Prod.mk.inj (Except.ok.inj h)
    have hdigit : ¬c.isDigit = true := by rcases hc with rfl | rfl | rfl <;> decide
    refine ⟨?_, List.suffix_rfl⟩
    rw [List.nil_append, parsePort, if_neg hdigit, if_pos (by rcases hc with rfl | rfl | rfl <;> decide)]
  | cons d cs ih =>
    rw [parsePort] at h
    rw [List.cons_append, parsePort]
    split at h
    · rename_i hdigit
      rw [if_pos hdigit]
      dsimp only at h ⊢
      split at h
      · cases h
      · rename_i hsmall
        rw [if_neg hsmall]
        obtain ⟨happ, hsuffix⟩ := ih h
        exact ⟨happ, hsuffix.trans (List.suffix_cons d cs)⟩
    · rename_i hdigit
      rw [if_neg hdigit]
      split at h
      · rename_i hend
        obtain ⟨rfl, rfl⟩ := Prod.mk.inj (Except.ok.inj h)
        rw [if_pos hend]
        exact ⟨rfl, List.suffix_rfl⟩
      · cases h

/-! ## Hosts -/

theorem spanHost_append {tail : List Char} (htail : Delimited tail) (inBrackets : Bool) (cs : List Char) :
    spanHost true inBrackets (cs ++ tail) =
      ((spanHost true inBrackets cs).1, (spanHost true inBrackets cs).2 ++ tail) := by
  induction cs generalizing inBrackets with
  | nil =>
    obtain ⟨c, more, rfl, hc⟩ := htail
    rw [List.nil_append, spanHost, spanHost, if_pos (by rcases hc with rfl | rfl | rfl <;> simp)]
    rfl
  | cons d cs ih =>
    rw [List.cons_append, spanHost, spanHost]
    split
    · rfl
    · simp only [ih]

theorem spanHost_suffix (inBrackets : Bool) (cs : List Char) : (spanHost true inBrackets cs).2 <:+ cs := by
  induction cs generalizing inBrackets with
  | nil => exact List.suffix_rfl
  | cons d cs ih =>
    rw [spanHost]
    split
    · exact List.suffix_rfl
    · exact (ih _).trans (List.suffix_cons d cs)

/-- What is read behind a host: a port and what follows it, or no port. -/
inductive PortBehind (scheme host : List Char) : List Char → Option Nat → List Char → Prop
  | port {cs rest : List Char} {port : Option Nat} (hhost : host ≠ [])
      (hport : parsePort scheme 0 false cs = .ok (port, rest)) : PortBehind scheme host (':' :: cs) port rest
  | none {cs : List Char} (hcolon : cs.head? ≠ some ':') : PortBehind scheme host cs none cs

section HostAndPort

variable {scheme cs host rest : List Char} {port : Option Nat}

theorem parseHostAndPort_eq_ok (hs : SchemeKind.of scheme = .special) :
    parseHostAndPort scheme cs = .ok (host, port, rest) ↔
      (spanHost true false cs).1 ≠ [] ∧ domainHost (spanHost true false cs).1 = .ok host ∧
        PortBehind scheme host (spanHost true false cs).2 port rest := by
  unfold parseHostAndPort
  simp only [hs, SchemeKind.isSpecial, true_and, if_true]
  generalize spanHost true false cs = span
  obtain ⟨text, after⟩ := span
  dsimp only
  by_cases hempty : text = []
  · rw [if_pos hempty]
    refine ⟨fun h => ?_, fun h => absurd hempty h.1⟩
    cases h
  rw [if_neg hempty]
  cases domainHost text with
  | error e =>
    refine ⟨fun h => ?_, fun h => ?_⟩
    · cases h
    · cases h.2.1
  | ok found =>
    simp only [bind, Except.bind]
    constructor
    · intro h
      split at h
      · split at h
        · cases h
        · rename_i hhost
          split at h
          · cases h
          · rename_i hport
            obtain ⟨rfl, hpair⟩ := Prod.mk.inj (Except.ok.inj h)
            obtain ⟨rfl, rfl⟩ := Prod.mk.inj hpair
            exact ⟨hempty, rfl, .port hhost hport⟩
      · rename_i hcolon
        obtain ⟨rfl, hpair⟩ := Prod.mk.inj (Except.ok.inj h)
        obtain ⟨rfl, rfl⟩ := Prod.mk.inj hpair
        refine ⟨hempty, rfl, .none fun hhead => ?_⟩
        obtain ⟨more, hmore⟩ := List.head?_eq_some_iff.1 hhead
        exact hcolon more hmore
    · rintro ⟨-, hfound, hbehind⟩
      obtain rfl := Except.ok.inj hfound
      cases hbehind with
      | port hhost hport =>
        simp only [if_neg hhost, hport]
        rfl
      | none hcolon =>
        split
        · exact absurd rfl hcolon
        · rfl

theorem PortBehind.append {tail : List Char} (htail : Delimited tail) (h : PortBehind scheme host cs port rest) :
    PortBehind scheme host (cs ++ tail) port (rest ++ tail) := by
  cases h with
  | port hhost hport => exact .port hhost (parsePort_append htail hport).1
  | none hcolon =>
    refine .none ?_
    obtain ⟨c, more, rfl, hc⟩ := htail
    cases cs with
    | nil => rcases hc with rfl | rfl | rfl <;> simp
    | cons d cs => exact hcolon

theorem PortBehind.suffix (h : PortBehind scheme host cs port rest) : rest <:+ cs := by
  cases h with
  | port _ hport =>
    have htail : Delimited ['/'] := ⟨'/', [], rfl, .inl rfl⟩
    exact (parsePort_append htail hport).2.trans (List.suffix_cons _ _)
  | none => exact List.suffix_rfl

/-- A host and port stop before text that a delimiter begins. -/
theorem parseHostAndPort_append (hs : SchemeKind.of scheme = .special) {tail : List Char} (htail : Delimited tail)
    (h : parseHostAndPort scheme cs = .ok (host, port, rest)) :
    parseHostAndPort scheme (cs ++ tail) = .ok (host, port, rest ++ tail) := by
  obtain ⟨hne, hhost, hbehind⟩ := (parseHostAndPort_eq_ok hs).1 h
  rw [parseHostAndPort_eq_ok hs, spanHost_append htail]
  exact ⟨hne, hhost, hbehind.append htail⟩

theorem parseHostAndPort_suffix (hs : SchemeKind.of scheme = .special)
    (h : parseHostAndPort scheme cs = .ok (host, port, rest)) : rest <:+ cs :=
  ((parseHostAndPort_eq_ok hs).1 h).2.2.suffix.trans (spanHost_suffix false cs)

theorem ne_nil_of_parseHostAndPort (hs : SchemeKind.of scheme = .special)
    (h : parseHostAndPort scheme cs = .ok (host, port, rest)) : cs ≠ [] := by
  rintro rfl
  exact ((parseHostAndPort_eq_ok hs).1 h).1 rfl

end HostAndPort

/-! ## Users -/

/-- Whether a character ends the authority of a web URL. -/
def endsAuthority (c : Char) : Bool := c = '/' || c = '?' || c = '#' || c = '\\'

theorem splitUserinfo_eq (cs : List Char) : splitUserinfo true cs =
    match (cs.takeWhile (!endsAuthority ·)).reverse.dropWhile (· ≠ '@') with
    | '@' :: user => some (user.reverse, cs.drop (user.length + 1))
    | _ => none := by
  simp only [splitUserinfo, Bool.and_true]
  rfl

theorem length_user {p q : Char → Bool} {cs user : List Char}
    (h : (cs.takeWhile p).reverse.dropWhile q = '@' :: user) : user.length + 1 ≤ cs.length := calc
  user.length + 1 = ((cs.takeWhile p).reverse.dropWhile q).length := by rw [h, List.length_cons]
  _ ≤ (cs.takeWhile p).reverse.length := (List.dropWhile_sublist q).length_le
  _ = (cs.takeWhile p).length := List.length_reverse
  _ ≤ cs.length := (List.takeWhile_sublist p).length_le

/-- A user and password stop before text that a delimiter begins. -/
theorem splitUserinfo_append {tail : List Char} (htail : Delimited tail) (cs : List Char) :
    splitUserinfo true (cs ++ tail) = (splitUserinfo true cs).map fun found => (found.1, found.2 ++ tail) := by
  obtain ⟨c, more, rfl, hc⟩ := htail
  have hstop : (!endsAuthority c) = false := by
    rcases hc with rfl | rfl | rfl <;> rfl
  rw [splitUserinfo_eq, splitUserinfo_eq, takeWhile_append_stop hstop]
  split
  · rename_i user huser
    rw [Option.map_some, List.drop_append_of_le_length (length_user huser)]
  · rfl

theorem splitUserinfo_suffix {cs user rest : List Char} (h : splitUserinfo true cs = some (user, rest)) :
    rest <:+ cs := by
  rw [splitUserinfo_eq] at h
  split at h
  · obtain ⟨-, rfl⟩ := Prod.mk.inj (Option.some.inj h)
    exact List.drop_suffix _ _
  · cases h

/-! ## Authorities -/

/-- The URL of a scheme and an authority whose path, query and fragment are still to be read. -/
def onAuthority (scheme : List Char) (a : Authority) (rest : List Char) : Url :=
  let p := parsePathStart ⟨.of scheme, true⟩ true rest
  withRest ⟨scheme, some a, p.path, none, none⟩ p.rest

/-- How the text of an authority, and what follows it, is taken apart. -/
structure AuthorityParts (scheme cs user after host : List Char) (port : Option Nat) (rest : List Char) : Prop where
  split : (splitUserinfo true cs).getD ([], cs) = (user, after)
  ahead : ¬((splitUserinfo true cs).isSome = true ∧ user = [] ∧ after.head?.any endsAuthority = true)
  hostAndPort : parseHostAndPort scheme after = .ok (host, port, rest)
  named : ¬(host = [] ∧ ((parseUserinfo user).1 ≠ [] ∨ (parseUserinfo user).2 ≠ []))

section AfterSlashes

variable {scheme cs : List Char} {u : Url}

theorem afterSlashes_eq_ok (hs : SchemeKind.of scheme = .special) :
    afterSlashes scheme cs = .ok u ↔ ∃ user after host port rest,
      AuthorityParts scheme cs user after host port rest ∧
      u = onAuthority scheme ⟨(parseUserinfo user).1, (parseUserinfo user).2, host, port⟩ rest := by
  unfold afterSlashes
  simp only [hs, SchemeKind.isSpecial, Bool.and_true]
  constructor
  · intro h
    split at h
    · cases h
    · rename_i hahead
      cases hhost : parseHostAndPort scheme ((splitUserinfo true cs).getD ([], cs)).2 with
      | error e =>
        rw [hhost] at h
        cases h
      | ok found =>
        obtain ⟨host, port, rest⟩ := found
        rw [hhost] at h
        simp only [bind, Except.bind] at h
        split at h
        · cases h
        · rename_i hnamed
          exact ⟨_, _, host, port, rest, ⟨rfl, hahead, hhost, hnamed⟩, by
            rw [onAuthority, hs]
            exact (Except.ok.inj h).symm⟩
  · rintro ⟨user, after, host, port, rest, ⟨hsplit, hahead, hhost, hnamed⟩, rfl⟩
    rw [hsplit]
    dsimp only
    split
    · rename_i hlacks
      exact absurd hlacks hahead
    · rw [hhost]
      simp only [bind, Except.bind]
      rw [if_neg hnamed, onAuthority, hs]
      rfl

theorem AuthorityParts.after_suffix {user after host rest : List Char} {port : Option Nat}
    (h : AuthorityParts scheme cs user after host port rest) : after <:+ cs := by
  have hpair := h.split
  cases hsplit : splitUserinfo true cs with
  | none =>
    rw [hsplit] at hpair
    exact (Prod.mk.inj hpair).2 ▸ List.suffix_rfl
  | some found =>
    rw [hsplit] at hpair
    exact splitUserinfo_suffix (hsplit.trans (congrArg some hpair))

theorem AuthorityParts.append {user after host rest tail : List Char} {port : Option Nat}
    (hs : SchemeKind.of scheme = .special) (htail : Delimited tail)
    (h : AuthorityParts scheme cs user after host port rest) :
    AuthorityParts scheme (cs ++ tail) user (after ++ tail) host port (rest ++ tail) := by
  have hne := ne_nil_of_parseHostAndPort hs h.hostAndPort
  have hhead : (after ++ tail).head? = after.head? := by
    obtain ⟨c, after, rfl⟩ := List.exists_cons_of_ne_nil hne
    rfl
  refine ⟨?_, ?_, parseHostAndPort_append hs htail h.hostAndPort, h.named⟩
  · have hsplit := h.split
    rw [splitUserinfo_append htail]
    cases hfound : splitUserinfo true cs with
    | none =>
      rw [hfound] at hsplit
      obtain ⟨rfl, rfl⟩ := Prod.mk.inj hsplit
      rfl
    | some found =>
      rw [hfound] at hsplit
      rw [Option.map_some, Option.getD_some]
      obtain rfl : found = (user, after) := hsplit
      rfl
  · rw [splitUserinfo_append htail, Option.isSome_map, hhead]
    exact h.ahead

/-- What follows the authority of a web URL can be put behind its text. -/
theorem afterSlashes_append (hs : SchemeKind.of scheme = .special) (h : afterSlashes scheme cs = .ok u) :
    ∃ a rest, u = onAuthority scheme a rest ∧ rest <:+ cs ∧
      ∀ tail, Delimited tail → afterSlashes scheme (cs ++ tail) = .ok (onAuthority scheme a (rest ++ tail)) := by
  obtain ⟨user, after, host, port, rest, hparts, rfl⟩ := (afterSlashes_eq_ok hs).1 h
  have hrest : rest <:+ after := parseHostAndPort_suffix hs hparts.hostAndPort
  exact ⟨_, rest, rfl, hrest.trans hparts.after_suffix, fun tail htail =>
    (afterSlashes_eq_ok hs).2 ⟨user, after ++ tail, host, port, rest ++ tail, hparts.append hs htail, rfl⟩⟩

/-- There is no URL of the web without a host. -/
theorem ne_nil_of_afterSlashes (hs : SchemeKind.of scheme = .special) (h : afterSlashes scheme cs = .ok u) :
    cs ≠ [] := by
  obtain ⟨user, after, host, port, rest, hparts, -⟩ := (afterSlashes_eq_ok hs).1 h
  have hne : after ≠ [] := ne_nil_of_parseHostAndPort hs hparts.hostAndPort
  rintro rfl
  exact hne (List.suffix_nil.1 hparts.after_suffix)

end AfterSlashes

end IssueTracker.Url
