import IssueTracker.Proofs.Link.Ends
import IssueTracker.Proofs.Link.Issues
import IssueTracker.Proofs.Operation.ReadBack
/-!
# Links between issues, read from both ends

A link is added by the name of a relationship, and listed at either end: there by the name that was asked
for, up to the case of its letters, and here by the other name of the same type. Which key goes to which
end of the entry and which name is read from it are decided in two places that have to agree.
-/

namespace IssueTracker

/-! ## Names of relationships -/

namespace LinkType

/-- One of the names of a type is that of a relationship, up to the case of letters. -/
def Names (t : LinkType) (relationship : String) : Prop :=
  Text.sameLetters t.outward relationship = true ∨ Text.sameLetters t.inward relationship = true

instance (t : LinkType) (relationship : String) : Decidable (t.Names relationship) :=
  inferInstanceAs (Decidable (_ ∨ _))

/-- The name of a type that is meant by a relationship: the outward one when both are. -/
def meant (t : LinkType) (relationship : String) : String :=
  if Text.sameLetters t.outward relationship then t.outward else t.inward

/-- The name of a type that is read at the other end. -/
def converse (t : LinkType) (relationship : String) : String :=
  if Text.sameLetters t.outward relationship then t.inward else t.outward

variable {t : LinkType} {relationship : String}

theorem Names.sameLetters_meant (h : t.Names relationship) :
    Text.sameLetters (t.meant relationship) relationship = true := by
  unfold meant
  split
  · assumption
  · exact h.resolve_left (by assumption)

theorem direction?_eq_none : t.direction? relationship = none ↔ ¬ t.Names relationship := by
  unfold direction? Names
  split
  · simp [*]
  · split <;> simp [*]

theorem Names.direction? (h : t.Names relationship) :
    (t.direction? relationship = some .outward ∧ t.meant relationship = t.outward ∧
      t.converse relationship = t.inward) ∨
    t.direction? relationship = some .inward ∧ t.meant relationship = t.inward ∧
      t.converse relationship = t.outward := by
  unfold LinkType.direction? meant converse
  by_cases houtward : Text.sameLetters t.outward relationship = true
  · simp [houtward]
  · have hinward : Text.sameLetters t.inward relationship = true := h.resolve_left houtward
    simp [houtward, hinward]

end LinkType

/-! ## Two issues that are linked -/

namespace Tracker

variable {t t' : Tracker} {name inward outward : String} {answer : Answer} {type : LinkType}

/-- Where the type is there and both issues are, a link between them is stored at both ends. -/
theorem Linking.stored (ht : t.Orderly) (h : t.Linking name inward outward t' answer)
    (htype : t.linkTypes.find? (·.name = name) = some type) (hinward : Table.contains inward t.issues = true)
    (houtward : Table.contains outward t.issues = true) :
    answer = accepted ∧
      (t.Extends t' fun id => (if id = inward then [issueLinkEntry type "outwardIssue" outward] else []) ++
        if id = outward then [issueLinkEntry type "inwardIssue" inward] else []) ∧
      ∀ key, key ≠ inward → key ≠ outward → Table.get? key t'.issues = Table.get? key t.issues := by
  cases h with
  | untyped hnone =>
    rw [hnone] at htype
    cases htype
  | absent _ hnone =>
    rw [Table.contains, hnone] at hinward
    cases hinward
  | half _ _ _ hnone =>
    -- The first entry takes no issue away.
    rw [putIssue, Table.get?_insert] at hnone
    split at hnone
    · cases hnone
    · rw [Table.contains, hnone] at houtward
      cases houtward
  | @both type' issue changed other changed' htype' hissue hset hother hset' =>
    obtain rfl := Option.some.inj (htype'.symm.trans htype)
    have hfirst := Extends.put ht hissue hset
    refine ⟨rfl, hfirst.trans (Extends.put hfirst.orderly' hother hset'), fun key hne hne' => ?_⟩
    exact (Table.get?_insert_ne hne' _ _).trans (Table.get?_insert_ne hne _ _)

/-- After that, each of the two issues has one link more, to the other and by the name of its side. -/
theorem Extends.linked
    (h : t.Extends t' fun id => (if id = inward then [issueLinkEntry type "outwardIssue" outward] else []) ++
      if id = outward then [issueLinkEntry type "inwardIssue" inward] else [])
    (hne : inward ≠ outward) {ls ls' : List Link} (hls : t.HasLinks inward ls) (hls' : t.HasLinks outward ls') :
    (∃ now, t'.HasLinks inward now ∧ now.map Link.view = ls.map Link.view ++ [.inr (outward, type.outward)]) ∧
      ∃ now, t'.HasLinks outward now ∧ now.map Link.view = ls'.map Link.view ++ [.inr (inward, type.inward)] := by
  obtain ⟨s, hs⟩ := hls.finds
  obtain ⟨s', hs'⟩ := hls'.finds
  constructor
  · refine h.hasLinks_entry hls ?_ (readIssueLink_outwardIssue type outward) hs'
    rw [if_pos rfl, if_neg hne, List.append_nil]
  · refine h.hasLinks_entry hls' ?_ (readIssueLink_inwardIssue type inward) hs
    rw [if_pos rfl, if_neg hne.symm, List.nil_append]

end Tracker

/-- The vocabulary that a project goes by is that of the tracker as long as no type was declared after it
was asked for. -/
theorem World.vocabulary_eq {w : World} (h : w.memory = none ∨ w.memory = some w.tracker.linkTypes) :
    w.vocabulary = w.tracker.linkTypes := by
  rcases h with h | h <;> rw [vocabulary, h] <;> rfl

/-- Where a type is selected, the issue at its inward end lists a link by the outward name, and the one at its
outward end lists a link by the inward name. -/
theorem World.addIssueLink_linked {w : World} (hw : w.tracker.Orderly)
    (hnames : (w.tracker.linkTypes.map LinkType.name).Nodup) (hvocabulary : w.vocabulary = w.tracker.linkTypes)
    {p : Project} {a b : Snapshot} {relationship : String} {t : LinkType} {d : Direction}
    (hselect : LinkType.select? w.vocabulary relationship = some (t, d)) {inward outward : String}
    (hends : a.ends b.id d = (inward, outward)) (hne : inward ≠ outward) {ls ls' : List Link}
    (hls : w.ShowsLinks p inward ls) (hls' : w.ShowsLinks p outward ls') :
    let w' := w.after (a.addIssueLink b relationship)
    w.result (a.addIssueLink b relationship) = .ok () ∧
      (∃ now, w'.ShowsLinks p inward now ∧ now.map Link.view = ls.map Link.view ++ [.inr (outward, t.outward)]) ∧
      (∃ now, w'.ShowsLinks p outward now ∧ now.map Link.view = ls'.map Link.view ++ [.inr (inward, t.inward)]) ∧
      ∀ key, key ≠ inward → key ≠ outward →
        Table.get? key w'.tracker.issues = Table.get? key w.tracker.issues := by
  intro w'
  obtain ⟨t₀, answer, hunlogged, hlinking, hresult⟩ := addIssueLink_selected a b hw hselect
  rw [hends] at hlinking
  have horderly : t₀.Orderly := hw.of_unlogged hunlogged
  have htypes : t₀.linkTypes = w.tracker.linkTypes := (congrArg Tracker.linkTypes hunlogged :)
  have hissues : t₀.issues = w.tracker.issues := (congrArg Tracker.issues hunlogged :)
  -- No other type has the name of the one that was selected.
  have hmem : t ∈ t₀.linkTypes := by
    obtain ⟨earlier, later, heq, -, -⟩ := LinkType.select?_eq_some.1 hselect
    rw [htypes, ← hvocabulary, heq]
    exact List.mem_append_right earlier List.mem_cons_self
  have htype : t₀.linkTypes.find? (·.name = t.name) = some t :=
    UniqueKeys.find?_key LinkType.name (htypes ▸ hnames) hmem
  have hinward := ((showsLinks_iff hw).1 hls).of_unlogged hunlogged
  have houtward := ((showsLinks_iff hw).1 hls').of_unlogged hunlogged
  obtain ⟨s, hs⟩ := hinward.finds
  obtain ⟨s', hs'⟩ := houtward.finds
  obtain ⟨rfl, hextends, hothers⟩ := hlinking.stored horderly htype hs.known hs'.known
  obtain ⟨⟨now, hnow, hview⟩, now', hnow', hview'⟩ := hextends.linked hne hinward houtward
  refine ⟨hresult, ⟨now, ?_, hview⟩, ⟨now', ?_, hview'⟩, fun key h h' => ?_⟩
  · exact (showsLinks_iff hextends.orderly').2 hnow
  · exact (showsLinks_iff hextends.orderly').2 hnow'
  · rw [← hissues]
    exact hothers key h h'

/-- For types with different names that were declared before they were asked for, and two issues whose
links can be listed: a relationship that no type names is an error, and nothing is posted. By any other
relationship the issues are linked. When they are fetched again, the one has its former links and one to
the other by the name that is meant, the other has its former links and one back by the converse name of
the same type, and no third issue has changed. -/
theorem addLink_read_from_both_ends {w : World} (hw : w.tracker.Reachable)
    (hnames : (w.tracker.linkTypes.map LinkType.name).Nodup)
    (hmemory : w.memory = none ∨ w.memory = some w.tracker.linkTypes) {p : Project} {a b : Snapshot}
    (hne : a.id ≠ b.id) {linksA linksB : List Link} (ha : w.ShowsLinks p a.id linksA)
    (hb : w.ShowsLinks p b.id linksB) (relationship : String) :
    let add := a.addLink p (.issue b relationship)
    (w.tracker.linkTypes.find? (·.Names relationship) = none →
      w.result add = .error (.noSuchLinkType relationship) ∧ ∀ r ∈ w.calls add, r.method ≠ .post) ∧
    ∀ t, w.tracker.linkTypes.find? (·.Names relationship) = some t →
      w.result add = .ok () ∧ Text.sameLetters (t.meant relationship) relationship = true ∧
        (∃ now, (w.after add).ShowsLinks p a.id now ∧
          now.map Link.view = linksA.map Link.view ++ [.inr (b.id, t.meant relationship)]) ∧
        (∃ now, (w.after add).ShowsLinks p b.id now ∧
          now.map Link.view = linksB.map Link.view ++ [.inr (a.id, t.converse relationship)]) ∧
        ∀ key, key ≠ a.id → key ≠ b.id →
          Table.get? key (w.after add).tracker.issues = Table.get? key w.tracker.issues := by
  intro add
  have hvocabulary := World.vocabulary_eq hmemory
  constructor
  · intro hnone
    have hselect : LinkType.select? w.vocabulary relationship = none := by
      rw [hvocabulary, LinkType.select?_eq_none]
      intro t ht
      rw [LinkType.direction?_eq_none]
      simpa using List.find?_eq_none.1 hnone t ht
    obtain ⟨hresult, -, hcalls⟩ := World.addIssueLink_unselected a b hselect
    refine ⟨hresult, fun r hr => ?_⟩
    rw [hcalls r hr]
    decide
  · intro t hfind
    have hnamed : t.Names relationship := by simpa using List.find?_some hfind
    -- The side decides which of the two issues is the inward end.
    have hselect {d : Direction} (hd : t.direction? relationship = some d) :
        LinkType.select? w.vocabulary relationship = some (t, d) := by
      obtain ⟨-, earlier, later, htypes, hearlier⟩ := List.find?_eq_some_iff_append.1 hfind
      rw [hvocabulary, LinkType.select?_eq_some]
      refine ⟨earlier, later, htypes, fun t' ht' => ?_, hd⟩
      rw [LinkType.direction?_eq_none]
      simpa using hearlier t' ht'
    rcases hnamed.direction? with ⟨hd, hmeant, hconverse⟩ | ⟨hd, hmeant, hconverse⟩
    · obtain ⟨hresult, hhere, hthere, hothers⟩ :=
        World.addIssueLink_linked hw.orderly hnames hvocabulary (hselect hd) rfl hne ha hb
      rw [hmeant, hconverse]
      exact ⟨hresult, hmeant ▸ hnamed.sameLetters_meant, hhere, hthere, hothers⟩
    · obtain ⟨hresult, hthere, hhere, hothers⟩ :=
        World.addIssueLink_linked hw.orderly hnames hvocabulary (hselect hd) rfl hne.symm hb ha
      rw [hmeant, hconverse]
      exact ⟨hresult, hmeant ▸ hnamed.sameLetters_meant, hhere, hthere, fun key h h' => hothers key h' h⟩

/-- Of two new issues the one blocks the other. -/
theorem addLink_read_from_both_ends_pair :
    let w : World := ⟨.pair, none⟩
    let a := Snapshot.ofIssue "X-1" "Open"
    let b := Snapshot.ofIssue "X-2" "Open"
    let w' := w.after (a.addLink .teamwork (.issue b "BLOCKS"))
    w.tracker.Reachable ∧ (w.tracker.linkTypes.map LinkType.name).Nodup ∧ a.id ≠ b.id ∧
      w.ShowsLinks .teamwork a.id [] ∧ w.ShowsLinks .teamwork b.id [] ∧
      (∃ now, w'.ShowsLinks .teamwork a.id now ∧ now.map Link.view = [.inr ("X-2", "blocks")]) ∧
      ∃ now, w'.ShowsLinks .teamwork b.id now ∧ now.map Link.view = [.inr ("X-1", "is blocked by")] := by
  intro w a b w'
  have hw : w.tracker.Reachable :=
    ⟨"duke", .tail (.tail (.tail .refl (.issue _ "X-1" "First" "Open")) (.issue _ "X-2" "Second" "Open"))
      (.linkType _ ⟨"Blocks", "is blocked by", "blocks"⟩)⟩
  have hnames : (w.tracker.linkTypes.map LinkType.name).Nodup := by decide
  have hne : a.id ≠ b.id := by decide
  have hnone {id : String} (h : (w.found id).any fun s =>
      ((w.after (Project.issue id)).result (s.links .teamwork)).toOption.any List.isEmpty) :
      w.ShowsLinks .teamwork id [] := by
    obtain ⟨s, hs, hlinks⟩ := List.any_eq_true.1 h
    refine ⟨s, World.mem_found.1 hs, ?_⟩
    cases hresult : (w.after (Project.issue id)).result (s.links .teamwork) with
    | error e =>
      rw [hresult] at hlinks
      cases hlinks
    | ok links =>
      rw [hresult] at hlinks
      rw [List.isEmpty_iff.1 hlinks]
  have ha : w.ShowsLinks .teamwork a.id [] := hnone (by decide +kernel)
  have hb : w.ShowsLinks .teamwork b.id [] := hnone (by decide +kernel)
  obtain ⟨-, -, hhere, hthere, -⟩ := (addLink_read_from_both_ends hw hnames (.inl rfl) hne ha hb "BLOCKS").2
    ⟨"Blocks", "is blocked by", "blocks"⟩ (by decide)
  exact ⟨hw, hnames, hne, ha, hb, hhere, hthere⟩

end IssueTracker
