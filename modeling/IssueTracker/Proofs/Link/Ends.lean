import IssueTracker.Proofs.Results
import IssueTracker.Proofs.Tracker.Fetch
/-!
# The two ends of a link

What comes of linking two issues. The relationship selects a type from the vocabulary and a side of it,
and the tracker stores an entry with the issue at either end, first with the inward one. When it does not
know this one nothing is stored; when it does not know the other one, the first entry stays.
-/

namespace IssueTracker

/-! ## The vocabulary -/

theorem LinkType.ofJson_toJson (t : LinkType) : ofJson t.toJson = .ok t := by
  have hfields : t.toJson.fields ["name", "inward", "outward"] =
      .ok [some (.str t.name), some (.str t.inward), some (.str t.outward)] := by
    simp [toJson, Json.ofMembers, Json.fields]
  rw [ofJson, hfields]
  rfl

/-- The link types that a project goes by: those it remembers, or else those of the tracker. -/
def World.vocabulary (w : World) : List LinkType := w.memory.getD w.tracker.linkTypes

theorem World.result_fetchLinkTypes (w : World) : w.result Project.fetchLinkTypes = .ok w.tracker.linkTypes := by
  have hrespond : (w.tracker.respond (.get "issueLinkType")).2 = .ok w.tracker.linkTypesDocument := by
    have hsplit : Text.split '/' (Request.get "issueLinkType").path = ["issueLinkType"] := by decide
    rw [Tracker.respond_eq _ _ hsplit]
    rfl
  have hdocument : w.result (.execute (.get "issueLinkType")) = .ok w.tracker.linkTypesDocument := by
    rw [result_execute, hrespond]
    rfl
  have hitems : w.tracker.linkTypesDocument.itemsAt (.ofKeys ["issueLinkTypes"]) =
      w.tracker.linkTypes.map LinkType.toJson := by
    simp (disch := decide) [Tracker.linkTypesDocument, Json.itemsAt, Json.pointer_ofKeys, Json.follow_cons,
      Json.get?_ofMembers, Json.asArray?]
  rw [Project.fetchLinkTypes, result_bind_ok _ hdocument, result_done, hitems, mapM_eq_ok, List.map_map]
  exact List.map_congr_left fun t _ => t.ofJson_toJson

theorem Project.reads_linkTypes : Project.linkTypes.Sends Request.Reads := sends_linkTypes_of rfl

/-- Asking for the link types gives the vocabulary. -/
theorem World.result_linkTypes (w : World) : w.result Project.linkTypes = .ok w.vocabulary := by
  obtain ⟨t, memory⟩ := w
  cases memory with
  | some types => rfl
  | none => exact (World.result_bind_ok _ (World.result_fetchLinkTypes ⟨t, none⟩) _).trans rfl

/-- The first type with a side of a name is selected, and the outward side when both have it. -/
theorem LinkType.select?_eq_some {types : List LinkType} {relationship : String} {t : LinkType} {d : Direction} :
    select? types relationship = some (t, d) ↔ ∃ earlier later, types = earlier ++ t :: later ∧
      (∀ t' ∈ earlier, t'.direction? relationship = none) ∧ t.direction? relationship = some d := by
  rw [select?, List.findSome?_eq_some_iff]
  constructor
  · rintro ⟨earlier, t', later, rfl, hselect, hearlier⟩
    obtain ⟨d', hd, heq⟩ := Option.map_eq_some_iff.1 hselect
    cases heq
    exact ⟨earlier, later, rfl, fun t' ht' => Option.map_eq_none_iff.1 (hearlier t' ht'), hd⟩
  · rintro ⟨earlier, later, rfl, hearlier, hd⟩
    exact ⟨earlier, t, later, rfl, by rw [hd]; rfl, fun t' ht' => Option.map_eq_none_iff.2 (hearlier t' ht')⟩

theorem LinkType.select?_eq_none {types : List LinkType} {relationship : String} :
    select? types relationship = none ↔ ∀ t ∈ types, t.direction? relationship = none := by
  rw [select?, List.findSome?_eq_none_iff]
  simp only [Option.map_eq_none_iff]

/-! ## Storing the entries -/

namespace Tracker

variable {t : Tracker} {key : String} {issue : Json}

/-- What becomes of a tracker that is to link two issues, and its answer. -/
inductive Linking (t : Tracker) (name inward outward : String) : Tracker → Answer → Prop
  | untyped (htype : t.linkTypes.find? (·.name = name) = none) :
      Linking t name inward outward t (.error (.status 404 ("no link type named " ++ name)))
  | absent {type : LinkType} (htype : t.linkTypes.find? (·.name = name) = some type)
      (hinward : Table.get? inward t.issues = none) : Linking t name inward outward t (noIssue inward)
  | half {type : LinkType} {issue changed : Json} (htype : t.linkTypes.find? (·.name = name) = some type)
      (hinward : Table.get? inward t.issues = some issue)
      (hset : withIssueLink? (issueLinkEntry type "outwardIssue" outward) issue = some changed)
      (houtward : Table.get? outward (t.putIssue inward changed).issues = none) :
      Linking t name inward outward (t.putIssue inward changed) (noIssue outward)
  | both {type : LinkType} {issue changed other changed' : Json}
      (htype : t.linkTypes.find? (·.name = name) = some type) (hinward : Table.get? inward t.issues = some issue)
      (hset : withIssueLink? (issueLinkEntry type "outwardIssue" outward) issue = some changed)
      (houtward : Table.get? outward (t.putIssue inward changed).issues = some other)
      (hset' : withIssueLink? (issueLinkEntry type "inwardIssue" inward) other = some changed') :
      Linking t name inward outward ((t.putIssue inward changed).putIssue outward changed') accepted

theorem addIssueLink_absent (h : Table.get? key t.issues = none) (entry : Json) :
    t.addIssueLink key entry = (t, .error (.notFound ("issue " ++ key))) := by
  rw [addIssueLink, h]

/-- There is a place for an entry with every issue. -/
theorem Orderly.addIssueLink (ht : t.Orderly) (h : Table.get? key t.issues = some issue) (entry : Json) :
    ∃ changed, withIssueLink? entry issue = some changed ∧
      t.addIssueLink key entry = (t.putIssue key changed, .ok ()) ∧ (t.putIssue key changed).Orderly := by
  have hfiled := ht.filed _ _ h
  obtain ⟨changed, hset⟩ : ∃ changed, withIssueLink? entry issue = some changed := hfiled.withField? "issuelinks" _
  refine ⟨changed, hset, ?_, ht.putIssue (hfiled.withIssueLink? hset)⟩
  simp only [Tracker.addIssueLink, h, hset]

/-- A tracker in order answers a request for a link in one of the four ways. -/
theorem Orderly.linking (ht : t.Orderly) (name inward outward : String) :
    let r := Request.post "issueLink" (Project.issueLinkDocument name inward outward)
    Linking t name inward outward (t.issueLinkRoute r).1 (t.issueLinkRoute r).2 := by
  intro r
  have htext (member key value : String) (hmember : Json.index? member = none) (hkey : Json.index? key = none)
      (hget : (Project.issueLinkDocument name inward outward).get? member = some (.ofMembers [(key, .str value)])) :
      ((bodyOf r).pointer (.ofKeys [member, key])).bind Json.asString? = some value := by
    show ((Project.issueLinkDocument name inward outward).pointer (.ofKeys [member, key])).bind Json.asString? = _
    rw [Json.pointer_ofKeys, Json.follow_cons hmember, hget, Option.bind_some, Json.follow_cons hkey]
    simp [Json.get?_ofMembers, Json.asString?]
  have hname := htext "type" "name" name (by decide) (by decide)
    (by simp [Project.issueLinkDocument, Json.get?_ofMembers])
  have hinward := htext "inwardIssue" "key" inward (by decide) (by decide)
    (by simp [Project.issueLinkDocument, Json.get?_ofMembers])
  have houtward := htext "outwardIssue" "key" outward (by decide) (by decide)
    (by simp [Project.issueLinkDocument, Json.get?_ofMembers])
  unfold issueLinkRoute
  simp only [hname, hinward, houtward, Option.getD_some]
  cases htype : t.linkTypes.find? (·.name = name) with
  | none => exact .untyped htype
  | some type =>
    cases hfirst : Table.get? inward t.issues with
    | none =>
      simp only [addIssueLink_absent hfirst]
      exact .absent htype hfirst
    | some issue =>
      obtain ⟨changed, hset, hadd, ht'⟩ := ht.addIssueLink hfirst (issueLinkEntry type "outwardIssue" outward)
      simp only [hadd]
      cases hsecond : Table.get? outward (t.putIssue inward changed).issues with
      | none =>
        simp only [addIssueLink_absent hsecond]
        exact .half htype hfirst hset hsecond
      | some other =>
        obtain ⟨changed', hset', hadd', -⟩ := ht'.addIssueLink hsecond (issueLinkEntry type "inwardIssue" inward)
        simp only [hadd']
        exact .both htype hfirst hset hsecond hset'

end Tracker

/-! ## Linking an issue -/

/-- The keys at the ends of a link on one side of a type, the inward one first. -/
def Snapshot.ends (s : Snapshot) (target : String) : Direction → String × String
  | .outward => (s.id, target)
  | .inward => (target, s.id)

theorem Request.settle_post (path : String) (body : Json) (answer : Answer) :
    (post path body).settle answer = answer := by
  cases answer with
  | ok document => rfl
  | error e => cases e <;> rfl

namespace World

variable {w : World} {relationship : String} (s target : Snapshot)

/-- Without a type for the relationship nothing is asked but the vocabulary. -/
theorem addIssueLink_unselected (h : LinkType.select? w.vocabulary relationship = none) :
    w.result (s.addIssueLink target relationship) = .error (.noSuchLinkType relationship) ∧
      (w.after (s.addIssueLink target relationship)).tracker.unlogged = w.tracker.unlogged ∧
      ∀ r ∈ w.calls (s.addIssueLink target relationship), r.method = .get := by
  have hsends : (Project.linkTypes).Sends Request.Reads := Project.reads_linkTypes
  rw [Snapshot.addIssueLink, result_bind_ok _ w.result_linkTypes, after_bind_ok _ w.result_linkTypes,
    calls_bind_ok _ w.result_linkTypes, h]
  refine ⟨rfl, unlogged_after hsends w, fun r hr => ?_⟩
  rcases List.mem_append.1 hr with hr | hr
  · exact calls_of_sends hsends w r hr
  · cases hr

/-- With a type for it the tracker is asked to link the two issues. -/
theorem addIssueLink_selected (hw : w.tracker.Orderly) {t : LinkType} {d : Direction}
    (h : LinkType.select? w.vocabulary relationship = some (t, d)) :
    ∃ t₀ answer, t₀.unlogged = w.tracker.unlogged ∧
      Tracker.Linking t₀ t.name (s.ends target.id d).1 (s.ends target.id d).2
        (w.after (s.addIssueLink target relationship)).tracker answer ∧
      w.result (s.addIssueLink target relationship) = answer.map fun _ => () := by
  let fetched := w.after Project.linkTypes
  let r : Request := .post "issueLink" (Project.issueLinkDocument t.name (s.ends target.id d).1 (s.ends target.id d).2)
  have hunlogged : (fetched.tracker.noted r).unlogged = w.tracker.unlogged := unlogged_after Project.reads_linkTypes w
  have hlinking := (hw.of_unlogged hunlogged).linking t.name (s.ends target.id d).1 (s.ends target.id d).2
  have hprogram : Project.createIssueLink (s.issueLinkDocument t d target.id) = Program.perform r := by
    cases d <;> rfl
  rw [Snapshot.addIssueLink, result_bind_ok _ w.result_linkTypes, after_bind_ok _ w.result_linkTypes, h]
  dsimp only
  rw [hprogram, result_perform, after_perform, answered, Request.settle_post, Tracker.respond_issueLink _ _ rfl rfl]
  exact ⟨_, _, hunlogged, hlinking, rfl⟩

end World

end IssueTracker
