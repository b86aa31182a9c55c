import IssueTracker.Proofs.Link.CommentText
import IssueTracker.Proofs.Link.Listing
/-!
# Which links a comment can tell

Reading the comment for a link gives the link again exactly when each of its texts is a line and
the link has nothing that a comment has no lines for. A text with a line feed never comes back:
its lines may well be read as something, but no line holds a line feed.
-/

namespace IssueTracker

/-- The text of an address is read as the address, and holds neither a line feed nor a carriage
return. -/
structure Url.Written (u : Url) : Prop where
  readsBack : u.ReadsBack
  noFeed : '\n' ∉ u.chars
  noReturn : '\r' ∉ u.chars

theorem Url.Written.oneLine {u : Url} (h : u.Written) : Text.OneLine u.chars :=
  ⟨h.noFeed, fun hlast => h.noReturn (List.mem_of_getLast? hlast)⟩

theorem Url.written_repository : Url.repository.Written :=
  ⟨Url.readsBack_repository, by decide, by decide⟩

theorem Icon.isEmpty_iff {icon : Icon} : icon.isEmpty = true ↔ icon = .none := by
  cases icon
  simp [isEmpty, none]

/-- Links are compared part by part, but for where they are stored. -/
theorem WebLink.beq_iff {a b : WebLink} : (a == b) = true ↔
    a.uri = b.uri ∧ a.title = b.title ∧ a.summary = b.summary ∧ a.relationship = b.relationship ∧
      a.resolved = b.resolved ∧ a.icon = b.icon ∧ a.statusIcon = b.statusIcon := by
  cases a
  cases b
  simp [BEq.beq, unstored]

namespace WebLink.CommentForm

/-! ## What is read holds no line feed -/

theorem noFeed_of_after? {mark text : String} {line : List Char} (hline : '\n' ∉ line)
    (h : after? mark line = some text) : '\n' ∉ text.toList := by
  unfold after? at h
  split at h
  · obtain rfl := Option.some.inj h
    rw [String.toList_ofList]
    exact fun hmem => hline (List.mem_of_mem_drop hmem)
  · cases h

theorem noFeed_of_lastAfter? {mark text : String} {lines : List (List Char)}
    (hlines : ∀ line ∈ lines, '\n' ∉ line) (h : lastAfter? mark lines = some text) : '\n' ∉ text.toList := by
  obtain ⟨line, hline, hafter⟩ := List.mem_filterMap.1 (List.mem_of_getLast? h)
  exact noFeed_of_after? (hlines line hline) hafter

/-- No text of a link that was read holds a line feed. -/
theorem noFeed_of_parse? {body : String} {l : WebLink} (h : parse? body = some l) :
    '\n' ∉ l.title.toList ∧ (∀ text, l.summary = some text → '\n' ∉ text.toList) ∧
      ∀ text, l.relationship = some text → '\n' ∉ text.toList := by
  have hfree : ∀ line ∈ Text.lines body.toList, '\n' ∉ line := fun line => Text.noFeed_of_mem_lines
  unfold parse? read at h
  generalize Text.lines body.toList = lines at h hfree
  unfold readLines at h
  split at h
  · rename_i first second rest
    have hrest : ∀ line ∈ rest, '\n' ∉ line := fun line hline =>
      hfree line (List.mem_cons_of_mem _ (List.mem_cons_of_mem _ hline))
    split at h
    · cases h
    · split at h
      · rename_i title uri htitle _
        split at h
        · obtain rfl := Option.some.inj h
          exact ⟨noFeed_of_after? (hfree first List.mem_cons_self) htitle,
            fun text => noFeed_of_lastAfter? hrest, fun text => noFeed_of_lastAfter? hrest⟩
        · cases h
      · cases h
  · cases h

/-! ## Round trips -/

/-- A part that comes back with the carriage return at its end dropped did not end in one. -/
theorem noReturn_of_map_unreturned {part : Option String} (h : part.map unreturned = part) :
    ∀ text, part = some text → text.toList.getLast? ≠ some '\r' := by
  rintro text rfl
  exact unreturned_eq_self.1 (Option.some.inj h)

/-- A link is read back from its comment exactly when its texts are lines and it has neither the
resolved mark nor an icon. -/
theorem parse?_render_beq_iff {l : WebLink} (huri : l.uri.Written) :
    (∃ l', parse? (render l) = some l' ∧ (l' == l) = true) ↔
      Text.OneLine l.title.toList ∧ (∀ text, l.summary = some text → Text.OneLine text.toList) ∧
        (∀ text, l.relationship = some text → Text.OneLine text.toList) ∧
        l.resolved = false ∧ l.icon.isEmpty = true ∧ l.statusIcon.isEmpty = true := by
  constructor
  · rintro ⟨l', hread, hbeq⟩
    obtain ⟨-, htitle, hsummary, hrelationship, hresolved, hicon, hstatusIcon⟩ := beq_iff.1 hbeq
    -- What comes back holds no line feed, so neither did what was written, and the lines are known.
    obtain ⟨hfreeTitle, hfreeSummary, hfreeRelationship⟩ := noFeed_of_parse? hread
    rw [htitle] at hfreeTitle
    rw [hsummary] at hfreeSummary
    rw [hrelationship] at hfreeRelationship
    rw [parse?_render_of_noFeed huri.readsBack huri.oneLine hfreeTitle hfreeSummary hfreeRelationship] at hread
    obtain rfl := Option.some.inj hread
    exact ⟨⟨hfreeTitle, unreturned_eq_self.1 htitle⟩,
      fun text ht => ⟨hfreeSummary text ht, noReturn_of_map_unreturned hsummary text ht⟩,
      fun text ht => ⟨hfreeRelationship text ht, noReturn_of_map_unreturned hrelationship text ht⟩,
      hresolved.symm, Icon.isEmpty_iff.2 hicon.symm, Icon.isEmpty_iff.2 hstatusIcon.symm⟩
  · rintro ⟨htitle, hsummary, hrelationship, hresolved, hicon, hstatusIcon⟩
    refine ⟨l.plain, parse?_render ⟨htitle, hsummary, hrelationship, huri.oneLine, huri.readsBack⟩, ?_⟩
    exact beq_iff.2 ⟨rfl, rfl, rfl, rfl, hresolved.symm, (Icon.isEmpty_iff.1 hicon).symm,
      (Icon.isEmpty_iff.1 hstatusIcon).symm⟩

/-- A plain link comes back, and with a carriage return at the end of its title it does not. -/
theorem mirror_comes_back :
    Url.repository.Written ∧
      (∃ l', parse? (render .mirror) = some l' ∧ (l' == .mirror) = true) ∧
      ¬ ∃ l', parse? (render (.ofUri .repository "Mirror\r")) = some l' ∧
        (l' == .ofUri .repository "Mirror\r") = true := by
  refine ⟨Url.written_repository, ?_, ?_⟩
  · refine (parse?_render_beq_iff (l := .mirror) Url.written_repository).2
      ⟨⟨by decide, by decide⟩, ?_, ?_, rfl, rfl, rfl⟩
    · rintro text ⟨⟩
    · rintro text ⟨⟩
  · rw [parse?_render_beq_iff Url.written_repository]
    exact fun h => absurd h.1.noReturn (by decide)

end WebLink.CommentForm

end IssueTracker
