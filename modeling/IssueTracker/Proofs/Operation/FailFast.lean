import IssueTracker.Proofs.FailsFast
import IssueTracker.Proofs.Operation
import IssueTracker.Proofs.Routing
import IssueTracker.Proofs.Link.Listing
/-!
# Failing fast

The first error that is answered and not tolerated ends an operation: nothing more is asked for, and
the operation fails with exactly that error. What is tolerated is told by the operation, by how many
requests it made before and by method and path, not by what a request itself puts up with.
-/

namespace IssueTracker

variable {σ : Type}

/-! ## The parts of operations -/

section Parts

variable {E : Nat → Request → Nat → Prop} {P : Nat → Prop} {n : Nat}

open Program (Matches failsFast_done failsFast_warnAll failsFast_logged failsFast_execute_bind failsFast_perform)

theorem RemoteLinks.failsFast_readEntries (entries : List Json) (hP : P n) :
    (readEntries entries).FailsFast E P n := by
  induction entries with
  | nil => exact hP
  | cons entry rest ih =>
    refine (failsFast_logged (P := (· = n)) (WebLink.EntryForm.statusless_read entry) rfl).bind ?_
    rintro link _ rfl
    exact ih.bind fun links m hm => hm

theorem RemoteLinks.failsFast_list {store : RemoteLinks}
    (h : Matches E n ((Request.get store.path).onStatus 401 (.arr []))) (hP : P (n + 1)) :
    store.list.FailsFast E P n := by
  exact failsFast_execute_bind h fun document => failsFast_readEntries _ hP

namespace CommentStore

variable {store : CommentStore}

theorem failsFast_list (h : Matches E n ((Request.get store.path).param "maxResults" pageSize))
    (hP : P (n + 1)) : store.list.FailsFast E P n := by
  exact failsFast_execute_bind h fun page => failsFast_done (.mapM Comment.statusless_ofJson _) hP

theorem failsFast_listLinks (h : Matches E n ((Request.get store.path).param "maxResults" pageSize))
    (hP : P (n + 1)) : store.listLinks.FailsFast E P n := by
  refine (failsFast_list (P := (· = n + 1)) h rfl).bind ?_
  rintro comments _ rfl
  induction comments with
  | nil => exact hP
  | cons comment rest ih => exact failsFast_warnAll _ (ih.bind fun links m hm => hm)

theorem failsFast_create {body : String} (h : Matches E n (.post store.path (store.bodyDocument body)))
    (hP : P (n + 1)) : (store.create body).FailsFast E P n := by
  exact failsFast_execute_bind h fun document => failsFast_done (Comment.statusless_ofJson _) hP

theorem failsFast_update {id body : String}
    (h : Matches E n (.put (store.commentPath id) (store.bodyDocument body))) (hP : P (n + 1)) :
    (store.update id body).FailsFast E P n := by
  exact failsFast_execute_bind h fun document => failsFast_done (Comment.statusless_ofJson _) hP

/-- Deletions in turn: each of them may find its comment gone. -/
theorem failsFast_removeFrom
    (h : ∀ id n, Matches E n ((Request.delete (store.commentPath id)).onStatus 404 alreadyDeleted)) (uri : Url)
    (comments : List Comment) : (store.removeFrom uri comments).FailsFast E (fun _ => True) n := by
  induction comments generalizing n with
  | nil => trivial
  | cons comment rest ih =>
    apply failsFast_warnAll
    dsimp only
    split
    · exact (failsFast_perform (P := fun _ => True) (h comment.id n) trivial).bind fun _ _ _ => ih
    · exact ih

end CommentStore

theorem RemoteLinks.failsFast_deleteIds {store : RemoteLinks}
    (h : ∀ id n, Matches E n
      (((Request.delete store.path).param "globalId" id).onStatus 404 CommentStore.alreadyDeleted))
    (ids : List String) (hn : 1 ≤ n) : (store.deleteIds ids).FailsFast E (1 ≤ ·) n := by
  induction ids generalizing n with
  | nil => exact hn
  | cons id rest ih =>
    exact (failsFast_perform (P := (1 ≤ ·)) (h id n) (Nat.le_add_left 1 n)).bind fun _ _ hm => ih hm

theorem Project.failsFast_issue {id : String} (h : Matches E n ((Request.get ("issue/" ++ id)).onStatus 404 .null))
    (hP : P (n + 1)) : (Project.issue id).FailsFast E P n := by
  refine failsFast_execute_bind h fun document => ?_
  split
  · exact hP
  · exact (failsFast_done (Snapshot.statusless_ofJson document) hP).bind fun s m hm => hm

theorem Project.failsFast_linkTypes (h : Matches E n (.get "issueLinkType")) :
    linkTypes.FailsFast E (fun _ => True) n := by
  rintro (_ | types)
  · refine Program.FailsFast.bind (M := fun _ => True) ?_ fun types m hm => hm
    exact failsFast_execute_bind h fun document => failsFast_done (.mapM LinkType.statusless_ofJson _) trivial
  · trivial

/-- The linked issues are looked up in turn, after everything else. -/
theorem Snapshot.failsFast_issueLinks
    (h : ∀ key n, 2 ≤ n → Matches E n ((Request.get ("issue/" ++ key)).onStatus 404 .null)) (entries : List Json)
    (hn : 2 ≤ n) : (issueLinks entries).FailsFast E (2 ≤ ·) n := by
  induction entries generalizing n with
  | nil => exact hn
  | cons entry rest ih =>
    refine Program.FailsFast.bind (M := (2 ≤ ·)) ?_ fun link m hm => (ih hm).bind fun links m hm => hm
    refine (failsFast_done (P := (2 ≤ ·)) (statusless_readIssueLink entry) hn).bind ?_
    rintro ⟨key, relationship⟩ m hm
    refine (Project.failsFast_issue (h key m hm) (Nat.le_succ_of_le hm)).bind ?_
    rintro (_ | target) m hm
    · exact rfl
    · exact hm

namespace Workflow.Drive

/-- A drive that ends with the first error. -/
def GivesUp : Drive → Prop
  | .done result => Statusless result
  | .warn _ rest => GivesUp rest
  | .fetch next => (∀ e, next (.error e) = .done (.error e)) ∧ ∀ available, GivesUp (next (.ok available))
  | .perform _ next => (∀ e, next (.error e) = .done (.error e)) ∧ GivesUp (next (.ok ()))

theorem givesUp_fail (cause : TransitionError) : (fail cause).GivesUp := .error rfl

theorem givesUp_fetching {next : Transitions → Drive} (h : ∀ available, (next available).GivesUp) :
    (fetching next).GivesUp :=
  ⟨fun _ => rfl, h⟩

variable {available : Transitions} {otherwise : Drive} (h : otherwise.GivesUp)
include h

theorem givesUp_offered (target : State) : (offered available target otherwise).GivesUp := by
  unfold offered
  split
  · exact ⟨fun _ => rfl, .ok _⟩
  · exact h

theorem givesUp_through (middle target : State) (stuck : TransitionError) :
    (through available middle target stuck otherwise).GivesUp := by
  unfold through
  split
  · exact ⟨fun _ => rfl, givesUp_fetching fun _ => givesUp_offered (givesUp_fail _) _⟩
  · exact h

omit h in
theorem givesUp_toward (target : State) : (toward target).GivesUp := by
  refine givesUp_fetching fun available => ?_
  split
  · exact givesUp_fail _
  · cases target with
    | opened => exact givesUp_offered (givesUp_fail _) _
    | resolved =>
      apply givesUp_offered
      apply givesUp_through
      exact Statusless.ok ()
    | closed =>
      apply givesUp_offered
      apply givesUp_through
      exact givesUp_fail _

omit h in
/-- The requests of a drive tolerate nothing, so that it sees every error. -/
theorem GivesUp.failsFast {d : Drive} (h : d.GivesUp) {path : String}
    (hfetch : ∀ n, Matches E n (.get (path ++ "/transitions")))
    (hperform : ∀ id n, Matches E n (.post (path ++ "/transitions") (transitionBody id))) :
    (d.toProgram path).FailsFast E (fun _ => True) n := by
  induction d generalizing n with
  | done result => exact failsFast_done h trivial
  | warn w rest ih => exact ih h
  | fetch next ih =>
    refine ⟨fun document => ?_, fun e => ?_⟩
    · have hsettle : ((Request.get (path ++ "/transitions")).settle (.ok document)).bind readTransitions =
          readTransitions document := rfl
      dsimp only
      rw [hsettle]
      cases hread : readTransitions document with
      | ok available => exact ih _ (h.2 available)
      | error e =>
        rw [h.1]
        exact statusless_readTransitions document e hread
    · rcases (hfetch n).settle_error e with ⟨-, document, hsettle⟩ | ⟨hunexpected, hsettle⟩
      · cases e <;> cases hsettle
      · refine .inr ⟨hunexpected, ?_⟩
        dsimp only
        rw [hsettle]
        exact congrArg (toProgram path) (h.1 e)
  | perform id next ih =>
    refine ⟨fun document => ih _ h.2, fun e => ?_⟩
    rcases (hperform id n).settle_error e with ⟨-, document, hsettle⟩ | ⟨hunexpected, hsettle⟩
    · cases e <;> cases hsettle
    · refine .inr ⟨hunexpected, ?_⟩
      dsimp only
      rw [hsettle]
      exact congrArg (toProgram path) (h.1 e)

end Workflow.Drive

end Parts

/-! ## What is tolerated -/

/-- An action that lists the remote links, with its first request. -/
def Action.ListsRemoteLinks : Action → Prop
  | links => True
  | removeLink (.web _) => True
  | _ => False

/-- The statuses that are tolerated: that remote links may not be listed, that a comment or remote
link to delete is gone, and that an issue to look up is not there. Listing the links of an issue looks
up the linked issues after two other requests. -/
inductive Operation.Tolerates : Operation → Nat → Request → Nat → Prop
  | listing {s : Snapshot} {a : Action} {r : Request} (ha : a.ListsRemoteLinks) (hmethod : r.method = .get)
      (hpath : r.path = s.path ++ "/remotelink") : Tolerates (.act s a) 0 r 401
  | deletion {s : Snapshot} {a : Action} {n : Nat} {r : Request} (hmethod : r.method = .delete)
      (hpath : r.path = s.path ++ "/remotelink" ∨ ∃ id, r.path = s.path ++ "/comment/" ++ id) :
      Tolerates (.act s a) n r 404
  | lookup {id : String} {r : Request} (hmethod : r.method = .get) (hpath : r.path = "issue/" ++ id) :
      Tolerates (.issue id) 0 r 404
  | linkedIssue {s : Snapshot} {n : Nat} {r : Request} {key : String} (hn : 2 ≤ n) (hmethod : r.method = .get)
      (hpath : r.path = "issue/" ++ key) : Tolerates (.act s .links) n r 404

namespace Operation

open Program (Matches matches_none matches_onStatus)

section Actions

variable {s : Snapshot} {a : Action} {n : Nat} {r : Request}

/-- Most requests tolerate nothing. -/
theorem matches_act (hr : r.tolerated = []) (hmethod : r.method ≠ .delete)
    (ha : ¬ a.ListsRemoteLinks ∨ n = 1 ∨ a ≠ .links ∧ 1 ≤ n) : Matches (act s a).Tolerates n r := by
  refine matches_none hr fun code htolerates => ?_
  cases htolerates with
  | listing hlists => simp [hlists] at ha
  | deletion hdelete => exact hmethod hdelete
  | linkedIssue hn =>
    rcases ha with ha | rfl | ⟨hne, -⟩
    · exact ha trivial
    · omega
    · exact hne rfl

theorem matches_listing (ha : a.ListsRemoteLinks) :
    Matches (act s a).Tolerates 0 ((Request.get (RemoteLinks.mk s.path).path).onStatus 401 (.arr [])) := by
  refine matches_onStatus rfl fun code => ⟨fun htolerates => ?_, ?_⟩
  · cases htolerates with
    | listing => rfl
    | deletion hdelete => cases hdelete
    | linkedIssue hn => omega
  · rintro rfl
    exact .listing ha rfl rfl

/-- Deletions tolerate exactly what is gone, unless it is the listing that comes first. -/
theorem matches_deletion {r : Request} {document : Json} (hr : r.tolerated = []) (hmethod : r.method = .delete)
    (hpath : r.path = s.path ++ "/remotelink" ∨ ∃ id, r.path = s.path ++ "/comment/" ++ id) :
    Matches (act s a).Tolerates n (r.onStatus 404 document) := by
  have hget : (r.onStatus 404 document).method ≠ .get := by
    rw [show (r.onStatus 404 document).method = .delete from hmethod]
    decide
  refine matches_onStatus hr fun code => ⟨fun htolerates => ?_, ?_⟩
  · cases htolerates with
    | listing _ hlisting => exact absurd hlisting hget
    | deletion => rfl
    | linkedIssue _ hlookup => exact absurd hlookup hget
  · rintro rfl
    exact .deletion hmethod hpath

theorem commentPath_eq (s : Snapshot) (p : Project) (id : String) :
    (s.commentStore p).commentPath id = s.path ++ "/comment/" ++ id := by
  simp only [CommentStore.commentPath, CommentStore.path, Snapshot.commentStore, String.append_assoc]
  rfl

theorem matches_commentDeletion (p : Project) (id : String) :
    Matches (act s a).Tolerates n
      ((Request.delete ((s.commentStore p).commentPath id)).onStatus 404 CommentStore.alreadyDeleted) :=
  matches_deletion rfl rfl (.inr ⟨id, commentPath_eq s p id⟩)

theorem matches_linkedIssue (key : String) (hn : 2 ≤ n) :
    Matches (act s .links).Tolerates n ((Request.get ("issue/" ++ key)).onStatus 404 .null) := by
  refine matches_onStatus rfl fun code => ⟨fun htolerates => ?_, ?_⟩
  · cases htolerates with
    | listing => omega
    | deletion hdelete => cases hdelete
    | linkedIssue => rfl
  · rintro rfl
    exact .linkedIssue hn rfl rfl

end Actions

/-! ## Every operation -/

open Program (failsFast_warnAll failsFast_execute_bind failsFast_perform)

variable (p : Project) (s : Snapshot)

theorem failsFast_links : (s.links p).FailsFast (act s .links).Tolerates (fun _ => True) 0 := by
  refine (RemoteLinks.failsFast_list (P := (· = 1)) (matches_listing (by trivial)) rfl).bind ?_
  rintro remote _ rfl
  refine (CommentStore.failsFast_listLinks (P := (· = 2)) (matches_act rfl nofun (.inr (.inl rfl))) rfl).bind ?_
  rintro inComments _ rfl
  exact (Snapshot.failsFast_issueLinks (fun key _ hn => matches_linkedIssue key hn) _ (Nat.le_refl 2)).bind
    fun _ _ _ => trivial

theorem failsFast_addLink (link : Link) :
    (s.addLink p link).FailsFast (act s (.addLink link)).Tolerates (fun _ => True) 0 := by
  have hplain {n : Nat} {r : Request} (hr : r.tolerated = []) (hmethod : r.method ≠ .delete) :
      Matches (act s (.addLink link)).Tolerates n r := matches_act hr hmethod (.inl id)
  cases link with
  | web l =>
    unfold Snapshot.addLink Snapshot.addWebLink
    dsimp only
    split
    · refine (CommentStore.failsFast_listLinks (P := fun _ => True) (hplain rfl nofun) trivial).bind ?_
      intro posted n _
      split
      · trivial
      · exact (CommentStore.failsFast_create (hplain rfl nofun) trivial).bind fun comment m hm => hm
    · exact failsFast_perform (hplain rfl nofun) trivial
  | issue target relationship =>
    refine (Project.failsFast_linkTypes (hplain rfl nofun)).bind fun types n _ => ?_
    split
    · exact failsFast_perform (hplain rfl nofun) trivial
    · exact rfl

/-- Removing a web link lists and deletes remote links, then lists and deletes comments. -/
theorem failsFast_removeLink (link : Link) :
    (s.removeLink p link).FailsFast (act s (.removeLink link)).Tolerates (fun _ => True) 0 := by
  cases link with
  | web l =>
    refine Program.FailsFast.bind (M := (1 ≤ ·)) ?_ fun _ n hn => ?_
    · refine (RemoteLinks.failsFast_list (P := (· = 1)) (matches_listing (by trivial)) rfl).bind ?_
      rintro stored _ rfl
      exact RemoteLinks.failsFast_deleteIds (fun id n => matches_deletion rfl rfl (.inl rfl)) _ (Nat.le_refl 1)
    · refine (CommentStore.failsFast_list (P := fun _ => True) ?_ trivial).bind fun comments _ _ => ?_
      · exact matches_act rfl nofun (.inr (.inr ⟨by simp, hn⟩))
      · exact CommentStore.failsFast_removeFrom (fun id n => matches_commentDeletion p id) _ _
  | issue target relationship => exact rfl

/-- A change of the issue is one request that tolerates nothing. -/
theorem failsFast_update {a : Action} (ha : ¬ a.ListsRemoteLinks) (query : Json) :
    (s.update query).FailsFast (act s a).Tolerates (fun _ => True) 0 :=
  failsFast_perform (matches_act rfl nofun (.inl ha)) trivial

theorem failsFast_setProperty (name : String) (value : Json) :
    (s.setProperty p name value).FailsFast (act s (.setProperty name value)).Tolerates (fun _ => True) 0 := by
  unfold Snapshot.setProperty
  split
  · trivial
  · exact failsFast_warnAll _ (failsFast_update s id _)

theorem failsFast_setAssignees (users : List User) :
    (s.setAssignees users).FailsFast (act s (.setAssignees users)).Tolerates (fun _ => True) 0 := by
  unfold Snapshot.setAssignees
  dsimp only
  split
  · exact failsFast_perform (matches_act rfl nofun (.inl id)) trivial
  · exact failsFast_perform (matches_act rfl nofun (.inl id)) trivial
  · exact rfl

theorem failsFast_act (a : Action) : (a.program p s).FailsFast (act s a).Tolerates (fun _ => True) 0 := by
  have hplain (ha : ¬ a.ListsRemoteLinks) {n : Nat} {r : Request} (hr : r.tolerated = [])
      (hmethod : r.method ≠ .delete) : Matches (act s a).Tolerates n r := matches_act hr hmethod (.inl ha)
  cases a with
  | setTitle title =>
    unfold Action.program Snapshot.setTitle
    split
    · trivial
    · exact failsFast_update s id _
  | setBody body =>
    unfold Action.program Snapshot.setBody
    split
    · trivial
    · exact failsFast_update s id _
  | comments => exact CommentStore.failsFast_list (hplain id rfl nofun) trivial
  | addComment body => exact CommentStore.failsFast_create (hplain id rfl nofun) trivial
  | updateComment commentId body => exact CommentStore.failsFast_update (hplain id rfl nofun) trivial
  | removeComment commentId => exact failsFast_perform (matches_commentDeletion p commentId) trivial
  | setState target =>
    exact (Workflow.Drive.givesUp_toward target).failsFast (fun _ => hplain id rfl nofun)
      fun _ _ => hplain id rfl nofun
  | labels =>
    unfold Action.program Snapshot.fetchLabels
    split
    · trivial
    · have hmatches : Matches (act s .labels).Tolerates 0 (.get s.path) := hplain id rfl nofun
      exact failsFast_execute_bind hmatches fun document => trivial
  | addLabel label => exact failsFast_update s id _
  | removeLabel label => exact failsFast_update s id _
  | setLabels labels => exact (failsFast_update s id _).bind fun _ _ _ => trivial
  | setAssignees users => exact failsFast_setAssignees s users
  | closedBy => exact rfl
  | links => exact failsFast_links p s
  | addLink link => exact failsFast_addLink p s link
  | removeLink link => exact failsFast_removeLink p s link
  | setProperty name value => exact failsFast_setProperty p s name value
  | removeProperty => exact rfl

theorem failsFast (op : Operation) : (op.program p).FailsFast op.Tolerates (fun _ => True) 0 := by
  cases op with
  | act s a => exact failsFast_act p s a
  | issue id =>
    refine Project.failsFast_issue (matches_onStatus rfl fun code => ⟨fun htolerates => ?_, ?_⟩) trivial
    · cases htolerates
      rfl
    · rintro rfl
      exact .lookup rfl rfl
  | linkTypes => exact Project.failsFast_linkTypes (matches_none rfl fun code htolerates => by cases htolerates)
  | createIssueLink document =>
    exact failsFast_perform (matches_none rfl fun code htolerates => by cases htolerates) trivial

/-- Whatever is answered to an operation: an error that is not tolerated is the last answer and the
result, a status that comes out was answered and not tolerated, and where every error was tolerated
no status comes out. -/
theorem fails_with_first_error (p : Project) (op : Operation) (respond : Program.Responder σ) (st : σ)
    (memory : Option (List LinkType)) :
    let exchanges := (op.program p).exchanges respond st memory
    let outcome := (op.program p).run respond st memory
    exchanges.map Prod.fst = outcome.calls ∧
    (∀ (n : Nat) (r : Request) (e : TrackerError), exchanges[n]? = some (r, .error e) →
      ¬ e.IsStatus (op.Tolerates n r) → outcome.calls.length = n + 1 ∧ outcome.result = .error e) ∧
    (∀ code body, outcome.result = .error (.status code body) →
      ∃ (n : Nat) (r : Request), exchanges[n]? = some (r, .error (.status code body)) ∧ ¬ op.Tolerates n r code) ∧
    ((∀ (n : Nat) (r : Request) (e : TrackerError), exchanges[n]? = some (r, .error e) →
      e.IsStatus (op.Tolerates n r)) → ∀ code body, outcome.result ≠ .error (.status code body)) := by
  intro exchanges outcome
  have hcalls : exchanges.map Prod.fst = outcome.calls := Program.map_fst_exchanges respond _ st memory
  have hfast := failsFast p op
  have hanswered : ∀ code body, outcome.result = .error (.status code body) →
      ∃ (n : Nat) (r : Request), exchanges[n]? = some (r, .error (.status code body)) ∧ ¬ op.Tolerates n r code := by
    intro code body hresult
    obtain ⟨n, r, hn, hunexpected⟩ := hfast.answered hresult (by simp [TrackerError.status?])
    rw [Nat.zero_add] at hunexpected
    exact ⟨n, r, hn, fun htolerates => hunexpected ⟨code, body, rfl, htolerates⟩⟩
  refine ⟨hcalls, fun n r e hn he => ?_, hanswered, fun hall code body hresult => ?_⟩
  · obtain ⟨hlength, hresult⟩ := hfast.unexpected hn (by rwa [Nat.zero_add])
    exact ⟨by rw [← hcalls, List.length_map, hlength], hresult⟩
  · obtain ⟨n, r, hn, hunexpected⟩ := hanswered code body hresult
    obtain ⟨_, _, ⟨⟩, htolerates⟩ := hall n r _ hn
    exact hunexpected htolerates

/-- That remote links may not be listed and that a link is gone are passed over, a failure to list the
comments is not. -/
theorem fails_with_first_error_removeLink :
    let s := Snapshot.ofIssue "X-1" "Open"
    let answers : List Answer :=
      [.error (.status 401 "no"), .error (.status 404 "gone"), .error (.status 500 "down"), .ok .null]
    let outcome := ((act s (.removeLink (.web .mirror))).program ⟨.repository, none, .standard⟩).run Program.scripted
      answers none
    outcome.calls.length = 3 ∧ outcome.result = .error (.status 500 "down") := by
  intro s answers outcome
  let p : Project := ⟨.repository, none, .standard⟩
  let r := (Request.get (s.commentStore p).path).param "maxResults" CommentStore.pageSize
  refine (fails_with_first_error p (act s (.removeLink (.web .mirror))) Program.scripted answers none).2.1 2 r _ rfl ?_
  rintro ⟨_, _, ⟨⟩, htolerates⟩
  cases htolerates

end Operation

end IssueTracker
