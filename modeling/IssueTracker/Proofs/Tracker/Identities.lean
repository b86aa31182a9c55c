import IssueTracker.Proofs.Comment.Numbers
import IssueTracker.Proofs.Link.Marks
import IssueTracker.Proofs.Sends
import IssueTracker.Proofs.Tracker.Reachable
import IssueTracker.Proofs.UniqueKeys
/-!
# Identities

A tracker that is asked and added to by anybody in any order hands out every id once. The comments of an issue
are some of those that were created for it, in the order of their creation, and its remote links have different
global ids and different numbers, which they keep with their places until they are deleted.

A request is one step of a run, and so is whatever is put in directly: what clients do at the same time counts as
some order of whole steps, and a theorem about every run holds for each such order. That a creation is whole is an
assumption. The tracker takes the id of a new comment from a counter before it locks the comments to store it, so
that two creations may cross in between: their ids are still different, but the later one can be stored first.
Remote links are numbered and stored under one lock.
-/

namespace IssueTracker.Tracker

/-! ## Events -/

/-- One thing that is done to a tracker: a client sends a request, or something is put into the tracker directly. -/
inductive Event where
  | ask (r : Request)
  | comment (key author body : String)
  | issue (key summary status : String)
  | remoteLink (key : String) (entry : Json)
  | field (key field : String) (value : Json)
  | workflow (graph : List Transition)
  | linkType (type : LinkType)
  | denial
  | clearing

/-- The tracker after an event. A field without a place is not set. -/
def undergo (t : Tracker) : Event → Tracker
  | .ask r => (t.respond r).1
  | .comment key author body => (t.addComment key author body).1
  | .issue key summary status => t.addIssue key summary status
  | .remoteLink key entry => t.addRemoteLink key entry
  | .field key field value => (t.setField? key field value).getD t
  | .workflow graph => { t with workflow := graph }
  | .linkType type => { t with linkTypes := t.linkTypes ++ [type] }
  | .denial => { t with deniesRemoteLinks := true }
  | .clearing => { t with log := [] }

/-- The tracker after some events. -/
def after (t : Tracker) (events : List Event) : Tracker := events.foldl undergo t

/-- Setting a field changes an issue or nothing. -/
theorem undergo_field (t : Tracker) (key field : String) (value : Json) :
    t.undergo (.field key field value) = t ∨ ∃ issue, t.undergo (.field key field value) = t.putIssue key issue := by
  rw [undergo, setField?]
  split
  · exact .inl rfl
  · cases withField? field value _ with
    | none => exact .inl rfl
    | some issue => exact .inr ⟨issue, rfl⟩

/-- Whether a request asks for a new comment of an issue. -/
def AsksForComment (r : Request) (key : String) : Prop :=
  r.method = .post ∧ Text.split '/' r.path = ["issue", key, "comment"]

/-- The comment that a request creates, if any, going by its answer: the key of the issue, and the id. -/
def creationIn (r : Request) (answer : Answer) : List (String × String) :=
  match r.method, Text.split '/' r.path, answer with
  | .post, ["issue", key, "comment"], .ok comment => [(key, (comment.getD "id").asString?.getD "")]
  | _, _, _ => []

/-- The comment that an event creates, if any: the key of the issue, and the id that is told to whoever creates it. -/
def creations (t : Tracker) : Event → List (String × String)
  | .ask r => creationIn r (t.respond r).2
  | .comment key author body => [(key, (t.addComment key author body).2)]
  | _ => []

/-- The comments that some events create, in order. -/
def created (t : Tracker) : List Event → List (String × String)
  | [] => []
  | e :: rest => t.creations e ++ (t.undergo e).created rest

/-! ## Comments -/

/-- Every comment is one of those that were created for its issue, which have all numbers from the first to the
next, in order. -/
structure Chronicled (created : List (String × String)) (t : Tracker) : Prop where
  next : t.nextCommentId = 10000 + created.length
  numbered : created.map Prod.snd = (List.range' 10000 created.length).map toString
  kept : ∀ key, (idsOf (t.commentsOf key)).Sublist
    ((created.filter (·.1 = key)).map fun creation => some (.str creation.2))

variable {t t' : Tracker} {created : List (String × String)} {key : String}

theorem chronicled_empty (user : String) : Chronicled [] (empty user) := ⟨rfl, rfl, fun _ => .refl _⟩

namespace Chronicled

/-- Comments may be lost and changed but for their ids. -/
theorem thin (h : Chronicled created t) (hnext : t'.nextCommentId = t.nextCommentId)
    (hids : ∀ key, (idsOf (t'.commentsOf key)).Sublist (idsOf (t.commentsOf key))) : Chronicled created t' :=
  ⟨hnext.trans h.next, h.numbered, fun key => (hids key).trans (h.kept key)⟩

theorem of_threads_eq (h : Chronicled created t) (heq : t'.threads = t.threads) : Chronicled created t' := by
  obtain ⟨hcomments, hnext⟩ := Prod.mk.inj heq
  refine h.thin hnext fun key => ?_
  rw [commentsOf, hcomments]
  exact .refl _

/-- A new comment is the last that was created. -/
theorem append (h : Chronicled created t) (key author body : String) (request : Json) :
    Chronicled (created ++ [(key, toString t.nextCommentId)])
      { t.putComments key (t.commentsOf key ++ [restricted request (t.newComment author body)]) with
        nextCommentId := t.nextCommentId + 1 } := by
  refine ⟨?_, ?_, fun other => ?_⟩
  · rw [List.length_append, h.next]
    rfl
  · rw [List.map_append, h.numbered, List.length_append, List.length_singleton, List.range'_concat, List.map_append,
      h.next]
    simp
  · change (idsOf ((t.putComments key _).commentsOf other)).Sublist _
    rw [commentsOf_putComments, List.filter_append, List.map_append]
    split
    · rename_i heq
      subst heq
      rw [idsOf, List.map_append, List.map_singleton, get?_id_newComment]
      exact (h.kept other).append (by simp)
    · exact (h.kept other).trans (List.sublist_append_left _ _)

end Chronicled

theorem creationIn_ok {r : Request} (h : AsksForComment r key) (comment : Json) :
    creationIn r (.ok comment) = [(key, (comment.getD "id").asString?.getD "")] := by
  unfold creationIn
  simp only [h.1, h.2]

theorem creationIn_error (r : Request) (e : TrackerError) : creationIn r (.error e) = [] := by
  unfold creationIn
  split
  · rename_i heq
    cases heq
  · rfl

theorem creationIn_of_not {r : Request} (h : ∀ key, ¬ AsksForComment r key) (answer : Answer) :
    creationIn r answer = [] := by
  unfold creationIn
  split
  · rename_i hmethod hpath
    exact absurd ⟨hmethod, hpath⟩ (h _)
  · rfl

/-- No other request numbers a comment. -/
theorem nextCommentId_respond (t : Tracker) {r : Request} (h : ∀ key, ¬ AsksForComment r key) :
    (t.respond r).1.nextCommentId = t.nextCommentId := by
  generalize hsegments : Text.split '/' r.path = segments
  rw [respond_eq t r hsegments]
  -- One case for each route, in their order.
  unfold route
  split
  · unfold issueRoute
    split
    · rfl
    · split <;> rfl
  · split
    · unfold assigneeRoute
      split
      · rfl
      · dsimp only
        split <;> rfl
    · rfl
  · rename_i key
    unfold commentsRoute
    split
    · rfl
    · split
      · rfl
      · exact absurd ⟨‹_›, hsegments⟩ (h key)
      · rfl
  · unfold commentRoute
    dsimp only
    split
    · rfl
    · split <;> rfl
  · unfold transitionsRoute
    split
    · rfl
    · dsimp only
      split
      · rfl
      · split
        · rfl
        · split <;> rfl
      · rfl
  · unfold remoteLinksRoute
    split
    · rfl
    · split
      · split <;> rfl
      · exact (congrArg nextCommentId ((t.noted r).butRemoteLinks_upsert _ _) :)
      · exact (congrArg nextCommentId ((t.noted r).butRemoteLinks_delete _ _) :)
      · rfl
  · split
    · exact issueLinkRoute_keeps (P := fun t' => t'.nextCommentId = t.nextCommentId) rfl fun _ _ _ _ _ _ _ ht _ _ => ht
    · rfl
  · split <;> rfl
  · rfl

/-- Whatever an answer does that creates no comment, it keeps the ids of comments or loses some. -/
theorem Effect.thin {r : Request} {answer : Answer} (h : Effect t r t' answer)
    (hnext : t'.nextCommentId = t.nextCommentId) (key : String) :
    (idsOf (t'.commentsOf key)).Sublist (idsOf (t.commentsOf key)) := by
  have hput {other : String} {docs : List Json} (hdocs : (idsOf docs).Sublist (idsOf (t.commentsOf other))) :
      (idsOf ((t.putComments other docs).commentsOf key)).Sublist (idsOf (t.commentsOf key)) := by
    rw [commentsOf_putComments]
    split
    · rename_i heq
      exact heq ▸ hdocs
    · exact .refl _
  have hsame {t' : Tracker} (heq : t'.comments = t.comments) :
      (idsOf (t'.commentsOf key)).Sublist (idsOf (t.commentsOf key)) := by
    rw [commentsOf, heq]
    exact .refl _
  cases h with
  | comment => exact absurd hnext (Nat.succ_ne_self _)
  | edit hcomment => exact hput (by rw [idsOf_set hcomment (get?_id_changeComment _ _)])
  | erase other i => exact hput ((List.eraseIdx_sublist _ i).map _)
  | upsert other => exact hsame (congrArg Tracker.comments (t.butRemoteLinks_upsert other _) :)
  | delete other id => exact hsame (congrArg Tracker.comments (t.butRemoteLinks_delete other id) :)
  | link =>
    exact hsame (issueLinkRoute_keeps (P := fun t' => t'.comments = t.comments) rfl fun _ _ _ _ _ _ _ ht _ _ => ht)
  | _ => exact .refl _

namespace Chronicled

/-- A request creates the comment that it is answered with, or none. -/
theorem respond (h : Chronicled created t) (r : Request) :
    Chronicled (created ++ creationIn r (t.respond r).2) (t.respond r).1 := by
  have hnoted : Chronicled created (t.noted r) := h.of_threads_eq rfl
  by_cases hasks : ∃ key, AsksForComment r key
  · obtain ⟨key, hasks⟩ := hasks
    have hrespond : t.respond r = (t.noted r).commentsRoute key r := respond_eq t r hasks.2
    rw [hrespond, commentsRoute, hasks.1]
    split
    · -- There is no such issue.
      rw [noIssue, creationIn_error, List.append_nil]
      exact hnoted
    · rw [creationIn_ok hasks, Json.getD, get?_id_newComment]
      exact hnoted.append key t.user _ (bodyOf r)
  · have hother : ∀ key, ¬ AsksForComment r key := fun key hkey => hasks ⟨key, hkey⟩
    have hnext := nextCommentId_respond t hother
    rw [creationIn_of_not hother, List.append_nil]
    exact hnoted.thin hnext ((effect_respond t r).thin hnext)

theorem of_quiet (h : Chronicled created t) {e : Event} (hthreads : (t.undergo e).threads = t.threads)
    (hnone : t.creations e = []) : Chronicled (created ++ t.creations e) (t.undergo e) := by
  rw [hnone, List.append_nil]
  exact h.of_threads_eq hthreads

theorem undergo (h : Chronicled created t) (e : Event) : Chronicled (created ++ t.creations e) (t.undergo e) := by
  cases e with
  | ask r => exact h.respond r
  | comment key author body => exact h.append key author body .null
  | field key field value =>
    refine h.of_quiet ?_ rfl
    rcases t.undergo_field key field value with heq | ⟨issue, heq⟩
    · rw [heq]
    · rw [heq]
      rfl
  | _ => exact h.of_quiet rfl rfl

theorem after (h : Chronicled created t) (events : List Event) :
    Chronicled (created ++ t.created events) (t.after events) := by
  induction events generalizing t created with
  | nil => rwa [Tracker.created, List.append_nil]
  | cons e rest ih =>
    rw [Tracker.created, ← List.append_assoc]
    exact ih (h.undergo e)

end Chronicled

/-- Every comment has an id of its own, which was told to whoever created it and to nobody else. -/
structure CommentsIdentified (created : List (String × String)) (t : Tracker) : Prop where
  distinct : ∀ (key key' : String) (i j : Nat) (doc doc' : Json), (t.commentsOf key)[i]? = some doc →
    (t.commentsOf key')[j]? = some doc' → doc.getD "id" = doc'.getD "id" → key = key' ∧ i = j
  created_once : ∀ key, ∀ doc ∈ t.commentsOf key, ∃ id, doc.get? "id" = some (.str id) ∧
    created.filter (·.2 = id) = [(key, id)]
  increasing : ∀ key, ∃ ns : List Nat, idsOf (t.commentsOf key) = ns.map (fun n => some (.str (toString n))) ∧
    ns.Pairwise (· < ·)

namespace Chronicled

variable (h : Chronicled created t)
include h

/-- The one creation that told an id. -/
theorem filter_eq_singleton {id : String} (hmem : (key, id) ∈ created) :
    created.filter (·.2 = id) = [(key, id)] := by
  have hrange : (List.range' 10000 created.length).Pairwise (· < ·) := List.pairwise_lt_range'
  refine UniqueKeys.filter_key Prod.snd ?_ hmem
  rw [h.numbered, List.Nodup, List.pairwise_map]
  exact hrange.imp fun hlt heq => Nat.ne_of_lt hlt (toString_nat_injective heq)

theorem mem_created {doc : Json} (hdoc : doc ∈ t.commentsOf key) :
    ∃ id, doc.get? "id" = some (.str id) ∧ (key, id) ∈ created := by
  have hmem := (h.kept key).mem (List.mem_map_of_mem hdoc)
  obtain ⟨⟨key', id⟩, hcreation, hid⟩ := List.mem_map.1 hmem
  obtain ⟨hcreated, hkey⟩ := List.mem_filter.1 hcreation
  obtain rfl : key' = key := by simpa using hkey
  exact ⟨id, hid.symm, hcreated⟩

theorem increasing (key : String) : ∃ ns : List Nat,
    idsOf (t.commentsOf key) = ns.map (fun n => some (.str (toString n))) ∧ ns.Pairwise (· < ·) := by
  have hids : created.map (fun creation => some (Json.str creation.2)) =
      (List.range' 10000 created.length).map fun n => some (.str (toString n)) := by
    have hmap := congrArg (List.map fun id => some (Json.str id)) h.numbered
    rwa [List.map_map, List.map_map] at hmap
  have hsub := (h.kept key).trans (List.filter_sublist.map _)
  rw [hids] at hsub
  obtain ⟨ns, hns, heq⟩ := List.sublist_map_iff.1 hsub
  have hrange : (List.range' 10000 created.length).Pairwise (· < ·) := List.pairwise_lt_range'
  exact ⟨ns, heq, hrange.sublist hns⟩

theorem identified : t.CommentsIdentified created := by
  refine ⟨fun key key' i j doc doc' hdoc hdoc' hsame => ?_, fun key doc hdoc => ?_, h.increasing⟩
  · obtain ⟨id, hid, hmem⟩ := h.mem_created (List.mem_of_getElem? hdoc)
    obtain ⟨id', hid', hmem'⟩ := h.mem_created (List.mem_of_getElem? hdoc')
    rw [Json.getD, Json.getD, hid, hid'] at hsame
    obtain rfl : id = id' := Json.str.inj hsame
    have hone := (h.filter_eq_singleton hmem).symm.trans (h.filter_eq_singleton hmem')
    obtain rfl : key = key' := congrArg Prod.fst (List.singleton_inj.1 hone)
    obtain ⟨ns, hns, hgrow⟩ := h.increasing key
    have hnodup : (idsOf (t.commentsOf key)).Nodup := by
      rw [hns, List.Nodup, List.pairwise_map]
      exact hgrow.imp fun hlt heq =>
        Nat.ne_of_lt hlt (toString_nat_injective (Json.str.inj (Option.some.inj heq)))
    obtain ⟨hi, -⟩ := List.getElem?_eq_some_iff.1 hdoc
    refine ⟨rfl, (List.getElem?_inj (by simpa [idsOf] using hi) hnodup).1 ?_⟩
    rw [idsOf, List.getElem?_map, List.getElem?_map, hdoc, hdoc', Option.map_some, Option.map_some, hid, hid']
  · obtain ⟨id, hid, hmem⟩ := h.mem_created hdoc
    exact ⟨id, hid, h.filter_eq_singleton hmem⟩

end Chronicled

/-! ## Remote links -/

/-- Nobody puts an entry in as it is. -/
def Event.IsRegular : Event → Prop
  | .remoteLink _ _ => False
  | _ => True

/-- Whether an event may remove entries. -/
def Event.IsDeletion : Event → Prop
  | .ask r => r.method = .delete
  | _ => False

/-- Only deletions lose marks. -/
theorem accrues_undergo {e : Event} (hregular : e.IsRegular) (hkeeps : ¬ e.IsDeletion) (key : String) :
    Accrues t.nextRemoteLinkId (t.undergo e).nextRemoteLinkId (t.marksOf key) ((t.undergo e).marksOf key) := by
  have hsame {t' : Tracker} (heq : t'.shelves = t.shelves) :
      Accrues t.nextRemoteLinkId t'.nextRemoteLinkId (t.marksOf key) (t'.marksOf key) := by
    obtain ⟨hlinks, hnext⟩ := Prod.mk.inj heq
    refine ⟨hnext.ge, .inl ?_⟩
    rw [marksOf, remoteLinksOf, hlinks]
    rfl
  cases e with
  | remoteLink => exact hregular.elim
  | ask r =>
    rcases (effect_respond t r).remoteLinks with heq | ⟨-, other, heq⟩ | ⟨hdelete, -⟩
    · exact hsame heq
    · rw [Tracker.undergo, heq]
      exact accrues_upsertRemoteLink (t.noted r) other (bodyOf r) key
    · exact absurd hdelete hkeeps
  | field other field value =>
    refine hsame ?_
    rcases t.undergo_field other field value with heq | ⟨issue, heq⟩
    · rw [heq]
    · rw [heq]
      rfl
  | _ => exact hsame rfl

/-- Deletions leave the other entries as they are. -/
theorem sublist_respond {r : Request} (hdelete : r.method = .delete) (key : String) :
    ((t.respond r).1.remoteLinksOf key).Sublist (t.remoteLinksOf key) ∧
      (t.respond r).1.nextRemoteLinkId = t.nextRemoteLinkId := by
  rcases (effect_respond t r).remoteLinks with heq | ⟨hpost, -⟩ | ⟨-, other, id, heq⟩
  · obtain ⟨hlinks, hnext⟩ := Prod.mk.inj heq
    rw [remoteLinksOf, hlinks]
    exact ⟨.refl _, hnext⟩
  · rw [hdelete] at hpost
    cases hpost
  · rw [heq]
    exact sublist_deleteRemoteLinks (t.noted r) other id key

/-- The entries of every issue have marks of their own. -/
def RemoteLinksRegistered (t : Tracker) : Prop := ∀ key, Registered (t.marksOf key) t.nextRemoteLinkId

theorem RemoteLinksRegistered.undergo (h : t.RemoteLinksRegistered) {e : Event} (hregular : e.IsRegular) :
    (t.undergo e).RemoteLinksRegistered := by
  intro key
  by_cases hdeletes : e.IsDeletion
  · cases e with
    | ask r =>
      obtain ⟨hsub, hnext⟩ := sublist_respond (t := t) hdeletes key
      exact hnext.symm ▸ (h key).sublist (hsub.map markOf)
    | _ => exact hdeletes.elim
  · exact (h key).accrues (accrues_undergo hregular hdeletes key)

theorem RemoteLinksRegistered.after (h : t.RemoteLinksRegistered) {events : List Event}
    (hregular : ∀ e ∈ events, e.IsRegular) : (t.after events).RemoteLinksRegistered := by
  induction events generalizing t with
  | nil => exact h
  | cons e rest ih =>
    exact ih (h.undergo (hregular e List.mem_cons_self)) fun e' he' => hregular e' (List.mem_cons_of_mem _ he')

/-- In every issue the entries have different global ids, of which a missing one counts as one, and different
numbers. -/
structure RemoteLinksIdentified (t : Tracker) : Prop where
  globalIds : ∀ key, (t.remoteLinksOf key).Pairwise fun a b => (globalIdOf a == globalIdOf b) = false
  numbers : ∀ key, ∃ ns : List Nat, (t.remoteLinksOf key).map (Json.getD "id") = ns.map (fun n => .num (.int n)) ∧
    ns.Pairwise (· < ·)

theorem RemoteLinksRegistered.identified (h : t.RemoteLinksRegistered) : t.RemoteLinksIdentified := by
  refine ⟨fun key => ?_, fun key => ?_⟩
  · have hdistinct := (h key).distinct
    rw [marksOf, List.map_map, List.Nodup, List.pairwise_map] at hdistinct
    exact hdistinct.imp fun hne => Bool.eq_false_iff.2 fun heq => hne ((Json.beq_iff_canonical _ _).1 heq)
  · obtain ⟨ns, hns, hgrow, -⟩ := (h key).numbered
    rw [marksOf, List.map_map] at hns
    exact ⟨ns, hns, hgrow⟩

/-- Every entry stays in its place, with its global id and its number, whatever else becomes of it. -/
def KeepsEntries (t t' : Tracker) : Prop :=
  ∀ (key : String) (i : Nat) (entry : Json), (t.remoteLinksOf key)[i]? = some entry →
    ∃ entry', (t'.remoteLinksOf key)[i]? = some entry' ∧ (globalIdOf entry' == globalIdOf entry) = true ∧
      entry'.getD "id" = entry.getD "id"

theorem keepsEntries_undergo {e : Event} (hregular : e.IsRegular) (hkeeps : ¬ e.IsDeletion) :
    t.KeepsEntries (t.undergo e) := by
  intro key i entry hentry
  have hmark : (t.marksOf key)[i]? = some (markOf entry) := by
    rw [marksOf, List.getElem?_map, hentry, Option.map_some]
  obtain ⟨hi, -⟩ := List.getElem?_eq_some_iff.1 hmark
  obtain ⟨more, hmore⟩ := (accrues_undergo hregular hkeeps key).isPrefix
  have hlater : (t.marksOf key ++ more)[i]? = some (markOf entry) := by rw [List.getElem?_append_left hi, hmark]
  rw [hmore, marksOf, List.getElem?_map] at hlater
  obtain ⟨entry', hentry', heq⟩ := Option.map_eq_some_iff.1 hlater
  exact ⟨entry', hentry', (Json.beq_iff_canonical _ _).2 (congrArg Prod.fst heq), congrArg Prod.snd heq⟩

/-! ## Runs -/

theorem after_append (t : Tracker) (events more : List Event) :
    t.after (events ++ more) = (t.after events).after more :=
  List.foldl_append

/-- Let anybody ask a tracker for anything and add to it, in any order, and let nobody put in entries as they are
once it has no remote links. Then every comment of any issue has an id of its own, which was told once, to whoever
created the comment; comments stand in the order of their ids; and remote links of an issue have different global
ids and different numbers. Each of them keeps these and its place until it is deleted, which leaves the others as
they are. -/
theorem identities_unique (user : String) (setup events : List Event)
    (hnone : ∀ key, ((empty user).after setup).remoteLinksOf key = []) (hregular : ∀ e ∈ events, e.IsRegular) :
    let t := (empty user).after (setup ++ events)
    t.CommentsIdentified ((empty user).created (setup ++ events)) ∧ t.RemoteLinksIdentified ∧
      (∀ e : Event, e.IsRegular → ¬ e.IsDeletion → t.KeepsEntries (t.undergo e)) ∧
      ∀ e : Event, e.IsDeletion → ∀ key, ((t.undergo e).remoteLinksOf key).Sublist (t.remoteLinksOf key) := by
  have hstart : ((empty user).after setup).RemoteLinksRegistered := by
    intro key
    rw [marksOf, hnone key]
    exact .nil _
  have hregistered := hstart.after hregular
  rw [← after_append] at hregistered
  refine ⟨((chronicled_empty user).after _).identified, hregistered.identified,
    fun e he hkeeps => keepsEntries_undergo he hkeeps, fun e hdeletes key => ?_⟩
  cases e with
  | ask r => exact (sublist_respond hdeletes key).1
  | _ => exact hdeletes.elim

/-- Two clients put entries without a global id, one of them with an id of its own, where one with a global id was
put and deleted; another comments on an issue that is not there, and a comment is deleted before the next is
written. -/
theorem identities_unique_busy :
    let links (body : Json) := Event.ask (.post "issue/X-1/remotelink" body)
    let setup := [.issue "X-1" "Title" "Open", .remoteLink "X-1" (.ofMembers [("globalId", .str "a")]),
      .ask ((Request.delete "issue/X-1/remotelink").param "globalId" "a")]
    let events := [links .empty, .comment "X-9" "ana" "", links (.ofMembers [("id", .num 7)]),
      .ask (.post "issue/X-1/comment" .empty), .ask (.delete "issue/X-1/comment/10001"),
      .ask (.post "issue/X-1/comment" .empty)]
    let t := (empty "duke").after (setup ++ events)
    (∀ key, ((empty "duke").after setup).remoteLinksOf key = []) ∧ (∀ e ∈ events, e.IsRegular) ∧
      t.CommentsIdentified [("X-9", "10000"), ("X-1", "10001"), ("X-1", "10002")] ∧ t.RemoteLinksIdentified ∧
      t.KeepsEntries (t.undergo (links (.ofMembers [("globalId", .str "a")]))) := by
  intro links setup events t
  have hnone : ∀ key, ((empty "duke").after setup).remoteLinksOf key = [] := by
    have hlengths : ((empty "duke").after setup).remoteLinks.map (fun entry => (entry.1, entry.2.length)) =
        [("X-1", 0)] := by decide +kernel
    obtain ⟨⟨key, entries⟩, htable, hentry⟩ := List.map_eq_singleton_iff.1 hlengths
    obtain rfl := List.length_eq_zero_iff.1 (congrArg Prod.snd hentry)
    intro other
    rw [remoteLinksOf, htable, Table.get?]
    split <;> rfl
  have hregular : ∀ e ∈ events, e.IsRegular := by simp [events, links, Event.IsRegular]
  have hcreated : (empty "duke").created (setup ++ events) =
      [("X-9", "10000"), ("X-1", "10001"), ("X-1", "10002")] := by decide +kernel
  obtain ⟨hcomments, hlinks, hkeeps, -⟩ := identities_unique "duke" setup events hnone hregular
  exact ⟨hnone, hregular, hcreated ▸ hcomments, hlinks,
    hkeeps _ trivial (by simp [links, Event.IsDeletion, Request.post])⟩

end IssueTracker.Tracker
