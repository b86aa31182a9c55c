import IssueTracker.Proofs.Label.Stored
/-!
# Labels that a snapshot keeps

A snapshot keeps the labels that it was fetched with, forgets them when it adds or removes one, and keeps them
anew once they were fetched or all of them were set. Along any run of actions by any number of snapshots of an
issue, what a snapshot keeps are the labels that are stored, until another snapshot changes those.
-/

namespace IssueTracker

open Tracker (fieldOf?)

/-! ## Since -/

/-- Something of a kind is in a list, and all that comes after it is of another kind. -/
def Since {α : Type} (P Q : α → Prop) (l : List α) : Prop :=
  ∃ before x after, l = before ++ x :: after ∧ P x ∧ ∀ y ∈ after, Q y

section Since

variable {α : Type} {P Q : α → Prop} {l : List α} {x : α}

theorem not_since_nil : ¬ Since P Q [] := by
  rintro ⟨before, x, after, h, -⟩
  simp at h

/-- With one more at the end it starts there or goes on. -/
theorem since_concat : Since P Q (l ++ [x]) ↔ P x ∨ (Since P Q l ∧ Q x) := by
  constructor
  · rintro ⟨before, y, after, heq, hy, hafter⟩
    rcases List.eq_nil_or_concat after with rfl | ⟨after, z, rfl⟩
    · obtain ⟨-, hlast⟩ := List.append_inj' heq rfl
      obtain rfl := List.singleton_inj.1 hlast
      exact .inl hy
    · rw [List.concat_eq_append, ← List.cons_append, ← List.append_assoc] at heq
      obtain ⟨hinit, hlast⟩ := List.append_inj' heq rfl
      obtain rfl := List.singleton_inj.1 hlast
      rw [List.concat_eq_append] at hafter
      exact .inr ⟨⟨before, y, after, hinit, hy, fun a ha => hafter a (List.mem_append_left _ ha)⟩,
        hafter x (List.mem_append_right _ List.mem_cons_self)⟩
  · rintro (hx | ⟨⟨before, y, after, rfl, hy, hafter⟩, hx⟩)
    · exact ⟨l, x, [], rfl, hx, nofun⟩
    · refine ⟨before, y, after ++ [x], by simp, hy, fun a ha => ?_⟩
      rcases List.mem_append.1 ha with ha | ha
      · exact hafter a ha
      · exact List.mem_singleton.1 ha ▸ hx

theorem not_since (h : ∀ x ∈ l, ¬ P x) : ¬ Since P Q l := by
  rintro ⟨before, x, after, rfl, hx, -⟩
  exact h x (List.mem_append_right _ List.mem_cons_self) hx

end Since

/-! ## One snapshot -/

theorem Snapshot.labelsOf_of_field {document : Json} {labels : List String}
    (h : fieldOf? document "labels" = some (.arr (labels.map .str))) : labelsOf document = labels := by
  have hitems : document.itemsAt (.ofKeys ["fields", "labels"]) = labels.map .str := by
    rw [Json.itemsAt, Tracker.pointer_field (by decide), h]
    rfl
  rw [labelsOf, hitems, List.filterMap_map]
  exact List.filterMap_some

namespace World

variable {w : World} {p : Project} {s s' : Snapshot} {labels : List String}

/-- An issue is fetched as it is stored. -/
theorem result_get {issue : Json} (hs : '/' ∉ s.id.toList) (hstored : Table.get? s.id w.tracker.issues = some issue) :
    w.result (.execute (.get s.path)) = .ok issue := by
  have hnoted : Table.get? s.id (w.tracker.noted (.get s.path)).issues = some issue := hstored
  have hanswer : (w.tracker.respond (.get s.path)).2 = .ok issue := by
    rw [s.respond_issue hs w.tracker rfl]
    unfold Tracker.issueRoute
    simp only [hnoted]
    rfl
  rw [result_execute, hanswer]
  rfl

theorem result_fetchLabels_kept (h : s.labels = some labels) : w.result s.fetchLabels = .ok (labels, s) := by
  unfold Snapshot.fetchLabels
  rw [h]
  rfl

theorem result_fetchLabels_refilled (hs : '/' ∉ s.id.toList) (hlabels : w.tracker.Labelled s.id labels)
    (h : s.labels = none) : w.result s.fetchLabels = .ok (labels, { s with labels := some labels }) := by
  obtain ⟨issue, hstored, hfield⟩ := hlabels
  unfold Snapshot.fetchLabels
  rw [h]
  refine (w.result_bind_ok (result_get hs hstored) _).trans ?_
  rw [Snapshot.labelsOf_of_field hfield]
  rfl

/-- Asking for the labels asks the tracker only where none are kept. -/
theorem calls_fetchLabels (w : World) (s : Snapshot) : w.calls s.fetchLabels = [] ↔ s.labels ≠ none := by
  unfold Snapshot.fetchLabels
  cases s.labels with
  | none => exact iff_of_false (List.cons_ne_nil _ _) (not_not.2 rfl)
  | some labels => exact iff_of_true rfl (Option.some_ne_none _)

theorem result_setLabels (hw : w.tracker.Reachable) (hs : '/' ∉ s.id.toList) (h : w.tracker.Labelled s.id labels)
    (names : List String) : w.result (s.setLabels names) = .ok { s with labels := some names } := by
  obtain ⟨hresult, -⟩ := update_labels (a := .setLabels names) hw hs h rfl
  exact (w.result_bind_ok hresult _).trans rfl

/-- Whatever is fetched is kept. -/
theorem fetchLabels_keeps (h : w.result s.fetchLabels = .ok (labels, s')) : s' = { s with labels := some labels } := by
  unfold Snapshot.fetchLabels at h
  cases hkept : s.labels with
  | some kept =>
    rw [hkept] at h
    cases h
    rw [← hkept]
  | none =>
    rw [hkept, result_bind_eq_ok] at h
    obtain ⟨document, -, h⟩ := h
    cases h
    rfl

/-- Whatever is set is kept. -/
theorem setLabels_keeps {names : List String} (h : w.result (s.setLabels names) = .ok s') :
    s' = { s with labels := some names } := by
  obtain ⟨_, -, h⟩ := w.result_bind_eq_ok.1 h
  cases h
  rfl

end World

/-! ## Runs -/

/-- What an action leaves of the snapshot that it is taken on. -/
def Action.left (w : World) (s : Snapshot) : Action → Snapshot
  | addLabel label => (s.addLabel label).1
  | removeLabel label => (s.removeLabel label).1
  | labels =>
    match w.result s.fetchLabels with
    | .ok (_, s') => s'
    | .error _ => s
  | setLabels names =>
    match w.result (s.setLabels names) with
    | .ok s' => s'
    | .error _ => s
  | _ => s

/-- Nothing of a snapshot changes but the labels that it keeps. -/
theorem Action.left_eq (w : World) (s : Snapshot) (a : Action) : ∃ kept, a.left w s = { s with labels := kept } := by
  unfold left
  split
  · exact ⟨none, rfl⟩
  · exact ⟨none, rfl⟩
  · split
    · rename_i labels s' h
      exact ⟨_, World.fetchLabels_keeps h⟩
    · exact ⟨_, rfl⟩
  · split
    · rename_i s' h
      exact ⟨_, World.setLabels_keeps h⟩
    · exact ⟨_, rfl⟩
  · exact ⟨_, rfl⟩

/-- An action that neither changes labels nor fetches them leaves the snapshot as it is. -/
theorem Action.left_of_kept {w : World} {s : Snapshot} (a : Action) (h : a.labelChange? = none)
    (hkept : ¬ (a = .labels ∧ s.labels = none)) : a.left w s = s := by
  cases a with
  | addLabel _ | removeLabel _ | setLabels _ => cases h
  | labels =>
    cases hlabels : s.labels with
    | none => exact absurd ⟨rfl, hlabels⟩ hkept
    | some labels => simp only [left, World.result_fetchLabels_kept hlabels]
  | _ => rfl

/-- One thing that is done: a snapshot is fetched, or an action is taken on one, in the world at that time.
Snapshots go by the number of those that were fetched before. -/
inductive Deed where
  | fetch (i : Nat)
  | act (w : World) (i : Nat) (s : Snapshot) (a : Action)

namespace Deed

/-- What is made of the stored labels. -/
def relabel : Deed → List String → List String
  | fetch _ => id
  | act _ _ _ a => a.relabel

/-- The snapshot of a number is fetched, fetches labels that it did not keep, or changes the labels itself. -/
def Renews (i : Nat) : Deed → Prop
  | fetch j => j = i
  | act _ j s a => j = i ∧ (a.labelChange?.isSome ∨ (a = .labels ∧ s.labels = none))

/-- No other snapshot than that of a number changes the stored labels. -/
def Spares (p : Project) (id : String) (i : Nat) : Deed → Prop
  | fetch _ => True
  | act w j s a => j ≠ i → ∀ labels, w.tracker.Labelled id labels → (w.after (a.program p s)).tracker.Labelled id labels

/-- The snapshot of a number adds or removes a label. -/
def Forgets (i : Nat) : Deed → Prop
  | fetch _ => False
  | act _ j _ a => j = i ∧ ∃ label, a = .addLabel label ∨ a = .removeLabel label

/-- The snapshot of a number gets its labels or sets all of them, and succeeds. -/
def Refills (i : Nat) : Deed → Prop
  | fetch _ => False
  | act w j s a => j = i ∧ ((a = .labels ∧ ∃ reply, w.result s.fetchLabels = .ok reply) ∨
      ∃ names, a = .setLabels names ∧ ∃ reply, w.result (s.setLabels names) = .ok reply)

/-- The number of the snapshot. -/
def index : Deed → Nat
  | fetch i => i
  | act _ i _ _ => i

end Deed

/-- Nothing is kept after a label was added or removed, nor where nothing was kept and nothing was filled in. -/
theorem Action.left_labels_eq_none (w : World) (i : Nat) (s : Snapshot) (a : Action) : (a.left w s).labels = none ↔
    (Deed.act w i s a).Forgets i ∨ (s.labels = none ∧ ¬ (Deed.act w i s a).Refills i) := by
  cases a with
  | addLabel label => exact iff_of_true rfl (.inl ⟨rfl, label, .inl rfl⟩)
  | removeLabel label => exact iff_of_true rfl (.inl ⟨rfl, label, .inr rfl⟩)
  | labels =>
    cases hresult : w.result s.fetchLabels with
    | ok reply =>
      obtain ⟨labels, s'⟩ := reply
      simp [left, hresult, World.fetchLabels_keeps hresult, Deed.Forgets, Deed.Refills]
    | error e => simp [left, hresult, Deed.Forgets, Deed.Refills]
  | setLabels names =>
    cases hresult : w.result (s.setLabels names) with
    | ok s' => simp [left, hresult, World.setLabels_keeps hresult, Deed.Forgets, Deed.Refills]
    | error e => simp [left, hresult, Deed.Forgets, Deed.Refills]
  | _ => simp [left, Deed.Forgets, Deed.Refills]

/-- Snapshots of an issue are fetched and actions are taken on them, in any order. -/
inductive LabelRun (p : Project) (id : String) (start : World) : List Deed → List Snapshot → World → Prop
  | start : LabelRun p id start [] [] start
  | fetch {deeds : List Deed} {snapshots : List Snapshot} {w : World} {s : Snapshot}
      (run : LabelRun p id start deeds snapshots w) (found : w.result (Project.issue id) = .ok (some s)) :
      LabelRun p id start (deeds ++ [.fetch snapshots.length]) (snapshots ++ [s]) (w.after (Project.issue id))
  | act {deeds : List Deed} {snapshots : List Snapshot} {w : World} {i : Nat} {s : Snapshot}
      (run : LabelRun p id start deeds snapshots w) (alive : snapshots[i]? = some s) (a : Action) :
      LabelRun p id start (deeds ++ [.act w i s a]) (snapshots.set i (a.left w s)) (w.after (a.program p s))

/-- The labels after some deeds, each of which makes something of them. -/
def relabelled (labels : List String) (deeds : List Deed) : List String :=
  deeds.foldl (fun labels deed => deed.relabel labels) labels

theorem relabelled_concat (labels : List String) (deeds : List Deed) (deed : Deed) :
    relabelled labels (deeds ++ [deed]) = deed.relabel (relabelled labels deeds) := by
  rw [relabelled, List.foldl_concat]
  rfl

theorem Tracker.Labelled.unique {t : Tracker} {key : String} {labels labels' : List String}
    (h : t.Labelled key labels) (h' : t.Labelled key labels') : labels = labels' := by
  obtain ⟨issue, hstored, hlabels⟩ := h
  obtain ⟨issue', hstored', hlabels'⟩ := h'
  obtain rfl := Option.some.inj (hstored.symm.trans hstored')
  have hitems := Json.arr.inj (Option.some.inj (hlabels.symm.trans hlabels'))
  exact List.map_injective_iff.2 (fun _ _ => Json.str.inj) hitems

theorem Tracker.Labelled.of_unlogged {t t' : Tracker} {key : String} {labels : List String} (h : t.Labelled key labels)
    (heq : t'.unlogged = t.unlogged) : t'.Labelled key labels := by
  have hissues : t'.issues = t.issues := (congrArg Tracker.issues heq :)
  obtain ⟨issue, hstored, hlabels⟩ := h
  exact ⟨issue, hissues ▸ hstored, hlabels⟩

theorem getElem?_concat_eq_some {α : Type} {l : List α} {a b : α} {i : Nat} (h : (l ++ [a])[i]? = some b) :
    (i < l.length ∧ l[i]? = some b) ∨ (i = l.length ∧ b = a) := by
  rw [List.getElem?_append] at h
  split at h
  · exact .inl ⟨‹_›, h⟩
  · obtain ⟨hi, rfl⟩ := List.getElem?_eq_some_iff.1 h
    rw [List.length_singleton] at hi
    exact .inr ⟨by omega, by simp⟩

theorem getElem?_set_eq_some {α : Type} {l : List α} {a b : α} {i j : Nat} (h : (l.set j a)[i]? = some b) :
    (i ≠ j ∧ l[i]? = some b) ∨ (i = j ∧ b = a) := by
  rw [List.getElem?_set] at h
  split at h
  · split at h
    · exact .inr ⟨Eq.symm ‹_›, (Option.some.inj h).symm⟩
    · cases h
  · exact .inl ⟨Ne.symm ‹_›, h⟩

namespace LabelRun

variable {p : Project} {id : String} {start w : World} {deeds : List Deed} {snapshots : List Snapshot}

theorem reachable (hrun : LabelRun p id start deeds snapshots w) (hstart : start.tracker.Reachable) :
    w.tracker.Reachable := by
  induction hrun with
  | start => exact hstart
  | fetch _ _ ih => exact ih.after _
  | act _ _ a ih => exact ih.after _

/-- All snapshots are of the issue. -/
theorem ids (hrun : LabelRun p id start deeds snapshots w) (hstart : start.tracker.Reachable) :
    ∀ s ∈ snapshots, s.id = id ∧ '/' ∉ id.toList := by
  induction hrun with
  | start => nofun
  | fetch hrun found ih =>
    have horderly := (hrun.reachable hstart).orderly
    have hfinds := (World.result_issue horderly).1 found
    intro s hs
    rcases List.mem_append.1 hs with hs | hs
    · exact ih s hs
    · obtain rfl := List.mem_singleton.1 hs
      exact ⟨hfinds.id_eq horderly, hfinds.slashFree⟩
  | @act _ _ w _ s _ alive a ih =>
    have hold := ih s (List.mem_of_getElem? alive)
    intro s' hs'
    rcases List.mem_or_eq_of_mem_set hs' with hs' | rfl
    · exact ih s' hs'
    · obtain ⟨kept, heq⟩ := a.left_eq w s
      rw [heq]
      exact hold

/-- The stored labels are those that were there at first, after all that was made of them. -/
theorem stored (hrun : LabelRun p id start deeds snapshots w) (hp : ∀ m ∈ p.codec, m.field ≠ "labels")
    (hstart : start.tracker.Reachable) {labels : List String} (hlabels : start.tracker.Labelled id labels) :
    w.tracker.Labelled id (relabelled labels deeds) := by
  induction hrun with
  | start => exact hlabels
  | @fetch deeds _ w s _ _ ih =>
    rw [relabelled_concat]
    exact ih.of_unlogged (World.unlogged_after (Project.reads_issue id) w)
  | @act deeds _ w i s hrun alive a ih =>
    obtain ⟨rfl, hslash⟩ := hrun.ids hstart s (List.mem_of_getElem? alive)
    rw [relabelled_concat]
    exact World.labelled_after hp (hrun.reachable hstart) hslash ih a

theorem index_lt (hrun : LabelRun p id start deeds snapshots w) : ∀ deed ∈ deeds, deed.index < snapshots.length := by
  induction hrun with
  | start => exact fun deed hdeed => absurd hdeed List.not_mem_nil
  | fetch _ _ ih =>
    intro deed hdeed
    rw [List.length_append, List.length_singleton]
    rcases List.mem_append.1 hdeed with hdeed | hdeed
    · exact Nat.lt_succ_of_lt (ih deed hdeed)
    · obtain rfl := List.mem_singleton.1 hdeed
      exact Nat.lt_succ_self _
  | act _ alive _ ih =>
    intro deed hdeed
    rw [List.length_set]
    rcases List.mem_append.1 hdeed with hdeed | hdeed
    · exact ih deed hdeed
    · obtain rfl := List.mem_singleton.1 hdeed
      exact (List.getElem?_eq_some_iff.1 alive).1

/-- What a snapshot keeps are the stored labels, unless another snapshot changed those since it was renewed. -/
theorem kept (hrun : LabelRun p id start deeds snapshots w) (hp : ∀ m ∈ p.codec, m.field ≠ "labels")
    (hstart : start.tracker.Reachable) {labels : List String} (hlabels : start.tracker.Labelled id labels) {i : Nat}
    {s : Snapshot} (hs : snapshots[i]? = some s) (hsince : Since (Deed.Renews i) (Deed.Spares p id i) deeds) :
    ∀ kept, s.labels = some kept → kept = relabelled labels deeds := by
  induction hrun generalizing s with
  | start => exact absurd hsince not_since_nil
  | @fetch deeds snapshots w found hrun hfound ih =>
    intro kept hkept
    rw [relabelled_concat]
    rcases getElem?_concat_eq_some hs with ⟨hlt, hs⟩ | ⟨rfl, rfl⟩
    · rcases since_concat.1 hsince with hrenews | ⟨hsince, -⟩
      · exact absurd hrenews (Nat.ne_of_gt hlt)
      · exact ih hs hsince kept hkept
    · -- What is fetched are the labels that are stored.
      have hfinds := (World.result_issue (hrun.reachable hstart).orderly).1 hfound
      obtain ⟨issue, hissue, hfield⟩ := hrun.stored hp hstart hlabels
      obtain rfl := Option.some.inj (hfinds.stored.symm.trans hissue)
      obtain ⟨_, _, _, -, -, -, heq⟩ := Snapshot.ofJson_eq_ok.1 hfinds.describes
      rw [heq] at hkept
      exact (Option.some.inj hkept).symm.trans (Snapshot.labelsOf_of_field hfield)
  | @act deeds snapshots w j old hrun alive a ih =>
    intro kept hkept
    have hstored := hrun.stored hp hstart hlabels
    have hreachable := hrun.reachable hstart
    obtain ⟨rfl, hslash⟩ := hrun.ids hstart old (List.mem_of_getElem? alive)
    rw [relabelled_concat]
    rcases getElem?_set_eq_some hs with ⟨hne, hs⟩ | ⟨rfl, rfl⟩
    · -- The action of another snapshot spares the labels.
      rcases since_concat.1 hsince with ⟨heq, -⟩ | ⟨hsince, hspares⟩
      · exact absurd heq.symm hne
      · rw [ih hs hsince kept hkept]
        exact (hspares (Ne.symm hne) _ hstored).unique (World.labelled_after hp hreachable hslash hstored a)
    · cases hchange : a.labelChange? with
      | some change =>
        cases a with
        | addLabel label | removeLabel label => cases hkept
        | setLabels names =>
          have hset := World.result_setLabels hreachable hslash hstored names
          simp only [Action.left, hset] at hkept
          exact (Option.some.inj hkept).symm
        | _ => cases hchange
      | none =>
        by_cases hrefill : a = .labels ∧ old.labels = none
        · obtain ⟨rfl, hnone⟩ := hrefill
          have hfetch := World.result_fetchLabels_refilled hslash hstored hnone
          simp only [Action.left, hfetch] at hkept
          exact (Option.some.inj hkept).symm
        · rcases since_concat.1 hsince with ⟨-, hrenews⟩ | ⟨hsince, -⟩
          · simp [hchange, hrefill] at hrenews
          · rw [a.left_of_kept hchange hrefill] at hkept
            rw [Deed.relabel, a.relabel_of_none hchange]
            exact ih alive hsince kept hkept

/-- Nothing is kept exactly when a label was added or removed and nothing was filled in since. -/
theorem unset_iff (hrun : LabelRun p id start deeds snapshots w) {i : Nat} {s : Snapshot}
    (hs : snapshots[i]? = some s) :
    s.labels = none ↔ Since (Deed.Forgets i) (fun deed => ¬ deed.Refills i) deeds := by
  induction hrun generalizing s with
  | start => cases hs
  | @fetch deeds snapshots w found hrun hfound ih =>
    have hneither : ∀ j, ¬ (Deed.fetch j).Forgets i ∧ ¬ (Deed.fetch j).Refills i :=
      fun _ => ⟨fun h => h, fun h => h⟩
    rw [since_concat]
    rcases getElem?_concat_eq_some hs with ⟨-, hs⟩ | ⟨rfl, rfl⟩
    · rw [ih hs]
      exact ⟨fun h => .inr ⟨h, (hneither _).2⟩, fun h => (h.resolve_left (hneither _).1).1⟩
    · -- The deeds so far are those of other snapshots.
      have hothers : ∀ deed ∈ deeds, ¬ deed.Forgets snapshots.length := by
        intro deed hdeed hforgets
        have hlt := hrun.index_lt deed hdeed
        cases deed with
        | fetch j => exact hforgets
        | act w j s a => exact Nat.ne_of_lt hlt hforgets.1
      obtain ⟨document, -, hdescribes⟩ := World.result_issue_eq_some.1 hfound
      obtain ⟨_, _, _, -, -, -, heq⟩ := Snapshot.ofJson_eq_ok.1 hdescribes
      rw [heq]
      refine iff_of_false (Option.some_ne_none _) ?_
      rintro (hforgets | ⟨hsince, -⟩)
      · exact hforgets
      · exact not_since hothers hsince
  | @act deeds snapshots w j old hrun alive a ih =>
    rw [since_concat]
    rcases getElem?_set_eq_some hs with ⟨hne, hs⟩ | ⟨rfl, rfl⟩
    · have hforgets : ¬ (Deed.act w j old a).Forgets i := fun h => hne h.1.symm
      have hrefills : ¬ (Deed.act w j old a).Refills i := fun h => hne h.1.symm
      rw [ih hs]
      exact ⟨fun h => .inr ⟨h, hrefills⟩, fun h => (h.resolve_left hforgets).1⟩
    · rw [a.left_labels_eq_none w i old, ih alive]

/-- In a project that keeps no property of its own in the labels, for an issue with a list of labels and any run:
the stored labels are those of before, after all that was made of them in turn. A snapshot gives these labels
unless another one changed them since it was fetched, fetched labels that it did not keep, or changed labels
itself. It asks for them only where it keeps none, which is so exactly where it added or removed a label and
neither got nor set the labels since. -/
theorem coherent (hrun : LabelRun p id start deeds snapshots w) {custom : List FieldMapping}
    (hcodec : p.codec = .withCustom custom) (hcustom : ∀ m ∈ custom, m.field ≠ "labels")
    (hstart : start.tracker.Reachable) {labels : List String} (hlabels : start.tracker.Labelled id labels) :
    w.tracker.Labelled id (relabelled labels deeds) ∧ ∀ i s, snapshots[i]? = some s →
      (Since (Deed.Renews i) (Deed.Spares p id i) deeds →
        (w.result s.fetchLabels).map Prod.fst = .ok (relabelled labels deeds)) ∧
      (w.calls s.fetchLabels = [] ↔ s.labels ≠ none) ∧
      (s.labels = none ↔ Since (Deed.Forgets i) (fun deed => ¬ deed.Refills i) deeds) := by
  have hstandard : ∀ m ∈ PropertyCodec.standard, m.field ≠ "labels" := by decide
  have hp : ∀ m ∈ p.codec, m.field ≠ "labels" := by
    rw [hcodec]
    exact fun m hm => (List.mem_append.1 hm).elim (hstandard m) (hcustom m)
  have hstored := hrun.stored hp hstart hlabels
  refine ⟨hstored, fun i s hs => ⟨fun hsince => ?_, w.calls_fetchLabels s, hrun.unset_iff hs⟩⟩
  obtain ⟨hid, hslash⟩ := hrun.ids hstart s (List.mem_of_getElem? hs)
  subst hid
  cases hkept : s.labels with
  | none =>
    rw [World.result_fetchLabels_refilled hslash hstored hkept]
    rfl
  | some kept =>
    rw [World.result_fetchLabels_kept hkept, hrun.kept hp hstart hlabels hs hsince kept hkept]
    rfl

/-- A label that was added is fetched with the rest. -/
theorem coherent_of_addLabel :
    let p : Project := ⟨.repository, none, .withCustom []⟩
    let start : World := ⟨.ofIssue "X-1" "Open" [], none⟩
    start.tracker.Reachable ∧ start.tracker.Labelled "X-1" [] ∧
      ∃ deeds s w, LabelRun p "X-1" start deeds [s] w ∧ (w.result s.fetchLabels).map Prod.fst = .ok ["hotspot"] ∧
        w.calls s.fetchLabels ≠ [] := by
  intro p start
  have hstart : start.tracker.Reachable := Tracker.reachable_ofIssue "X-1" "Open" []
  have hlabels : start.tracker.Labelled "X-1" [] := ⟨(Tracker.empty "duke").newIssue "X-1" "Title" "Open", rfl, rfl⟩
  obtain ⟨s, hs⟩ : ∃ s, start.found "X-1" = [s] := List.length_eq_one_iff.1 (by decide +kernel)
  have hfound : start.result (Project.issue "X-1") = .ok (some s) := World.mem_found.1 (hs ▸ List.mem_cons_self)
  have hrun := ((LabelRun.start (p := p)).fetch hfound).act (i := 0) rfl (.addLabel "hotspot")
  have hcustom : ∀ m ∈ ([] : List FieldMapping), m.field ≠ "labels" := by simp
  obtain ⟨hgives, hcalls, -⟩ := (hrun.coherent rfl hcustom hstart hlabels).2 0 s.forgetLabels rfl
  have hadded := hgives (since_concat.2 (.inl ⟨rfl, .inl rfl⟩))
  exact ⟨hstart, hlabels, _, _, _, hrun, hadded, fun h => hcalls.1 h rfl⟩

end LabelRun

end IssueTracker
