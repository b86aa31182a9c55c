import IssueTracker.Proofs.FailsFast
import IssueTracker.Proofs.Link.Ends
import IssueTracker.Proofs.Link.Native
/-!
# The remembered vocabulary

When a project asks for its link types, and by which it goes, over any sequence of operations that need them and
whoever answers. It asks until a document is answered that it can read, and never again after that; an answer
that is no such document is not remembered, and nothing else is sent on it.
-/

namespace IssueTracker

variable {σ : Type}

namespace LinkType

/-- The request for the vocabulary. -/
def question : Request := .get "issueLinkType"

/-- An answer that tells a vocabulary: a document each of whose entries describes a link type. -/
def Tells (answer : Answer) (types : List LinkType) : Prop :=
  ∃ document, answer = .ok document ∧
    (document.itemsAt (.ofKeys ["issueLinkTypes"])).map ofJson = types.map .ok

variable {answer : Answer} {types types' : List LinkType}

theorem Tells.unique (h : Tells answer types) (h' : Tells answer types') : types = types' := by
  obtain ⟨document, rfl, hitems⟩ := h
  obtain ⟨_, ⟨⟩, hitems'⟩ := h'
  exact List.map_injective_iff.2 (fun _ _ => Except.ok.inj) (hitems.symm.trans hitems')

theorem error_of_text {value : Option Json} {e : TrackerError} (h : Json.text value = .error e) : e = .json := by
  unfold Json.text at h
  split at h <;> cases h
  rfl

/-- Nothing but the shape of a record can be wrong with it. -/
theorem error_of_ofJson {doc : Json} {e : TrackerError} (h : ofJson doc = .error e) : e = .json := by
  rcases bind_eq_error h with hfields | ⟨values, -, h⟩
  · unfold Json.fields at hfields
    split at hfields
    · cases hfields
    · split at hfields <;> cases hfields
      rfl
    · cases hfields
      rfl
  · split at h
    · rcases bind_eq_error h with hname | ⟨name, -, h⟩
      · exact error_of_text hname
      · rcases bind_eq_error h with hinward | ⟨inward, -, h⟩
        · exact error_of_text hinward
        · rcases bind_eq_error h with houtward | ⟨outward, -, h⟩
          · exact error_of_text houtward
          · cases h
    · cases h
      rfl

end LinkType

open LinkType (Tells question)

/-! ## Asking -/

/-- What may come of asking for the link types: those that are remembered are given without a request, and
otherwise one request is made and remembered if it tells them. -/
inductive Asking : Option (List LinkType) → List (Request × Answer) → Except TrackerError (List LinkType) →
    Option (List LinkType) → Prop where
  | known (types : List LinkType) : Asking (some types) [] (.ok types) (some types)
  | refused (e : TrackerError) : Asking none [(question, .error e)] (.error e) none
  | garbled {document : Json} (h : ∀ types, ¬Tells (.ok document) types) :
      Asking none [(question, .ok document)] (.error .json) none
  | told {answer : Answer} {types : List LinkType} (h : Tells answer types) :
      Asking none [(question, answer)] (.ok types) (some types)

theorem Request.settle_get (path : String) (answer : Answer) : (get path).settle answer = answer := by
  cases answer with
  | ok document => rfl
  | error e => cases e <;> rfl

/-- What a project that remembers nothing makes of the answer. -/
def Project.learn : Answer → Program (List LinkType)
  | .ok document =>
    match (document.itemsAt (.ofKeys ["issueLinkTypes"])).mapM LinkType.ofJson with
    | .ok types => .remember types (return types)
    | .error e => .fail e
  | .error e => .fail e

theorem Project.fetch_and_remember :
    (fetchLinkTypes >>= fun types => Program.remember types (return types)) = .call question learn := by
  refine congrArg (Program.call question) (funext fun answer => ?_)
  show Program.bind (Program.bind (.done (question.settle answer)) _) _ = _
  rw [question, Request.settle_get]
  cases answer with
  | error e => rfl
  | ok document =>
    rw [learn]
    show Program.bind (.done _) _ = _
    cases (document.itemsAt (.ofKeys ["issueLinkTypes"])).mapM LinkType.ofJson <;> rfl

theorem asking_linkTypes (respond : Program.Responder σ) (st : σ) (memory : Option (List LinkType)) :
    Asking memory (Project.linkTypes.exchanges respond st memory)
      (Project.linkTypes.run respond st memory).result (Project.linkTypes.run respond st memory).memory := by
  cases memory with
  | some types => exact .known types
  | none =>
    have hexchanges : Project.linkTypes.exchanges respond st none =
        (Program.call question Project.learn).exchanges respond st none :=
      Project.fetch_and_remember ▸ rfl
    have hrun : Project.linkTypes.run respond st none =
        (Program.call question Project.learn).run respond st none :=
      Project.fetch_and_remember ▸ rfl
    rw [hexchanges, hrun, Program.exchanges, Program.run]
    obtain ⟨st', answer⟩ := respond st question
    cases answer with
    | error e => exact .refused e
    | ok document =>
      simp only [Project.learn]
      cases hread : (document.itemsAt (.ofKeys ["issueLinkTypes"])).mapM LinkType.ofJson with
      | ok types => exact .told ⟨document, rfl, mapM_eq_ok.1 hread⟩
      | error e =>
        obtain ⟨item, -, hitem⟩ := mapM_eq_error hread
        obtain rfl := LinkType.error_of_ofJson hitem
        refine .garbled fun types htells => ?_
        obtain ⟨_, ⟨⟩, hitems⟩ := htells
        have hclash := hread.symm.trans (mapM_eq_ok.2 hitems)
        cases hclash

/-! ## One operation -/

/-- An operation that needs the vocabulary. -/
inductive VocabularyCall where
  | linkTypes
  | addLink (s target : Snapshot) (relationship : String)

namespace VocabularyCall

/-- What the operation does. Only the link types are something to give back. -/
def program (p : Project) : VocabularyCall → Program (Option (List LinkType))
  | linkTypes => do return some (← Project.linkTypes)
  | addLink s target relationship => do
    s.addLink p (.issue target relationship)
    return none

/-- What the operation does with the vocabulary. -/
def use (types : List LinkType) : VocabularyCall → Program (Option (List LinkType))
  | linkTypes => return some types
  | addLink s target relationship =>
    match LinkType.select? types relationship with
    | some (t, d) => do
      Project.createIssueLink (s.issueLinkDocument t d target.id)
      return none
    | none => .fail (.noSuchLinkType relationship)

theorem program_eq (p : Project) (c : VocabularyCall) :
    c.program p = Project.linkTypes >>= fun types => c.use types := by
  cases c with
  | linkTypes => rfl
  | addLink s target relationship =>
    rw [program, Snapshot.addLink, Snapshot.addIssueLink, bind_assoc]
    refine bind_congr fun types => ?_
    rw [use]
    cases LinkType.select? types relationship <;> rfl

/-- What an operation sends and results in when it goes by these link types: asked for them it gives them, all
and in their order; a link is made under the first type with a side of its name, and not at all if there is
none. -/
inductive Uses (types : List LinkType) :
    VocabularyCall → List (Request × Answer) → Except TrackerError (Option (List LinkType)) → Prop where
  | linkTypes : Uses types .linkTypes [] (.ok (some types))
  | declared {s target : Snapshot} {relationship : String} {earlier later : List LinkType} {t : LinkType}
      {d : Direction} (htypes : types = earlier ++ t :: later)
      (hearlier : ∀ t' ∈ earlier, t'.direction? relationship = none) (ht : t.direction? relationship = some d)
      (answer : Answer) : Uses types (.addLink s target relationship)
        [(.post "issueLink" (s.issueLinkDocument t d target.id), answer)] (answer.map fun _ => none)
  | undeclared {s target : Snapshot} {relationship : String}
      (htypes : ∀ t ∈ types, t.direction? relationship = none) :
      Uses types (.addLink s target relationship) [] (.error (.noSuchLinkType relationship))

theorem uses_use (types : List LinkType) (c : VocabularyCall) (respond : Program.Responder σ) (st : σ)
    (memory : Option (List LinkType)) :
    Uses types c ((c.use types).exchanges respond st memory) ((c.use types).run respond st memory).result ∧
      ((c.use types).run respond st memory).memory = memory := by
  cases c with
  | linkTypes => exact ⟨.linkTypes, rfl⟩
  | addLink s target relationship =>
    rw [use]
    cases hselect : LinkType.select? types relationship with
    | none => exact ⟨.undeclared (LinkType.select?_eq_none.1 hselect), rfl⟩
    | some selected =>
      obtain ⟨t, d⟩ := selected
      obtain ⟨earlier, later, htypes, hearlier, ht⟩ := LinkType.select?_eq_some.1 hselect
      generalize hrequest : Request.post "issueLink" (s.issueLinkDocument t d target.id) = request
      have hprogram : (do
          Project.createIssueLink (s.issueLinkDocument t d target.id)
          return none : Program (Option (List LinkType))) =
            .call request fun answer => .done (answer.map fun _ => none) := by
        refine congr (congrArg Program.call hrequest) (funext fun answer => ?_)
        show Program.bind (.done (((Request.post "issueLink" _).settle answer).map _)) _ = _
        rw [Request.settle_post]
        cases answer <;> rfl
      simp only [hprogram, Program.exchanges, Program.run]
      obtain ⟨st', answer⟩ := respond st request
      exact ⟨hrequest ▸ .declared htypes hearlier ht answer, rfl⟩

end VocabularyCall

/-- What may come of an operation: it asks for the vocabulary first, and goes by what it is told or ends. -/
inductive Going (c : VocabularyCall) (memory : Option (List LinkType)) : List (Request × Answer) →
    Except TrackerError (Option (List LinkType)) → Option (List LinkType) → Prop where
  | told {asked used : List (Request × Answer)} {types : List LinkType}
      {result : Except TrackerError (Option (List LinkType))} {memory' : Option (List LinkType)}
      (hasked : Asking memory asked (.ok types) memory') (hused : c.Uses types used result) :
      Going c memory (asked ++ used) result memory'
  | failed {asked : List (Request × Answer)} {e : TrackerError} {memory' : Option (List LinkType)}
      (hasked : Asking memory asked (.error e) memory') : Going c memory asked (.error e) memory'

theorem going_program (p : Project) (c : VocabularyCall) (respond : Program.Responder σ) (st : σ)
    (memory : Option (List LinkType)) :
    Going c memory ((c.program p).exchanges respond st memory) ((c.program p).run respond st memory).result
      ((c.program p).run respond st memory).memory := by
  have hasked := asking_linkTypes respond st memory
  rw [c.program_eq, Program.exchanges_bind, Program.run_bind, Program.Outcome.andThen]
  cases hresult : (Project.linkTypes.run respond st memory).result with
  | error e =>
    rw [hresult] at hasked
    simpa using Going.failed hasked
  | ok types =>
    rw [hresult] at hasked
    obtain ⟨hused, hmemory⟩ := VocabularyCall.uses_use types c respond
      (Project.linkTypes.run respond st memory).state (Project.linkTypes.run respond st memory).memory
    simpa only [hmemory] using Going.told hasked hused

/-! ## Runs -/

/-- One operation of a run: what it was, what it sent with the answers, and its result. -/
structure VocabularyStep where
  call : VocabularyCall
  exchanges : List (Request × Answer)
  result : Except TrackerError (Option (List LinkType))

/-- The operations of a run, one after the other in one project. -/
def vocabularySteps (p : Project) (respond : Program.Responder σ) :
    List VocabularyCall → σ → Option (List LinkType) → List VocabularyStep
  | [], _, _ => []
  | c :: calls, st, memory =>
    let outcome := (c.program p).run respond st memory
    ⟨c, (c.program p).exchanges respond st memory, outcome.result⟩ ::
      vocabularySteps p respond calls outcome.state outcome.memory

variable {p : Project} {respond : Program.Responder σ} {calls : List VocabularyCall} {st : σ}
  {memory memory' : Option (List LinkType)} {past asked used : List (Request × Answer)}

theorem map_call_vocabularySteps (p : Project) (respond : Program.Responder σ) (calls : List VocabularyCall) (st : σ)
    (memory : Option (List LinkType)) :
    (vocabularySteps p respond calls st memory).map VocabularyStep.call = calls := by
  induction calls generalizing st memory with
  | nil => rfl
  | cons c calls ih => exact congrArg (c :: ·) (ih _ _)

theorem VocabularyCall.Uses.ne_question {c : VocabularyCall} {types : List LinkType}
    {result : Except TrackerError (Option (List LinkType))} (h : c.Uses types used result) :
    ∀ exchange ∈ used, exchange.1 ≠ question := by
  cases h with
  | linkTypes => exact nofun
  | declared htypes hearlier ht answer =>
    intro exchange hexchange
    rw [List.mem_singleton.1 hexchange]
    exact fun heq => absurd (congrArg Request.method heq) nofun
  | undeclared htypes => exact nofun

/-- A project remembers a vocabulary exactly when it was told it. -/
structure Remembers (past : List (Request × Answer)) (memory : Option (List LinkType)) : Prop where
  told : ∀ {answer types}, (question, answer) ∈ past → Tells answer types → memory = some types
  telling : ∀ {types}, memory = some types → ∃ answer, (question, answer) ∈ past ∧ Tells answer types

namespace Remembers

theorem after_use (h : Remembers past memory) (hused : ∀ exchange ∈ used, exchange.1 ≠ question) :
    Remembers (past ++ used) memory := by
  refine ⟨fun hmem htells => ?_, fun hmemory => ?_⟩
  · rcases List.mem_append.1 hmem with hmem | hmem
    · exact h.told hmem htells
    · exact absurd rfl (hused _ hmem)
  · obtain ⟨answer, hmem, htells⟩ := h.telling hmemory
    exact ⟨answer, List.mem_append_left used hmem, htells⟩

theorem after_asking {result : Except TrackerError (List LinkType)} (h : Remembers past memory)
    (hasked : Asking memory asked result memory') : Remembers (past ++ asked) memory' := by
  -- A project that remembers nothing was told nothing before; only the new answer counts.
  have hnew {answer : Answer} (hmemory : memory = none) {answer' : Answer} {types : List LinkType}
      (hmem : (question, answer') ∈ past ++ [(question, answer)]) (htells : Tells answer' types) :
      Tells answer types := by
    rcases List.mem_append.1 hmem with hmem | hmem
    · exact absurd (hmemory.symm.trans (h.told hmem htells)) nofun
    · cases List.mem_singleton.1 hmem
      exact htells
  cases hasked with
  | known types => rwa [List.append_nil]
  | refused e =>
    refine ⟨fun hmem htells => ?_, nofun⟩
    obtain ⟨document, hanswer, -⟩ := hnew rfl hmem htells
    cases hanswer
  | garbled hnot => exact ⟨fun hmem htells => absurd (hnew rfl hmem htells) (hnot _), nofun⟩
  | told htold =>
    refine ⟨fun hmem htells => ?_, ?_⟩
    · rw [htold.unique (hnew rfl hmem htells)]
    · rintro _ ⟨⟩
      exact ⟨_, List.mem_append_right past List.mem_cons_self, htold⟩

theorem going {c : VocabularyCall} {exchanges : List (Request × Answer)}
    {result : Except TrackerError (Option (List LinkType))} (h : Remembers past memory)
    (hgoing : Going c memory exchanges result memory') : Remembers (past ++ exchanges) memory' := by
  cases hgoing with
  | told hasked hused =>
    rw [← List.append_assoc]
    exact (h.after_asking hasked).after_use hused.ne_question
  | failed hasked => exact h.after_asking hasked

/-- Every operation of a run starts from a memory that holds what was told until then. -/
theorem of_steps (h : Remembers past memory) {before after : List VocabularyStep} {e : VocabularyStep}
    (hsteps : vocabularySteps p respond calls st memory = before ++ e :: after) :
    ∃ memory' memory'', Remembers (past ++ before.flatMap VocabularyStep.exchanges) memory' ∧
      Going e.call memory' e.exchanges e.result memory'' := by
  induction calls generalizing st memory past before with
  | nil => simp [vocabularySteps] at hsteps
  | cons c calls ih =>
    have hgoing := going_program p c respond st memory
    rw [vocabularySteps] at hsteps
    cases before with
    | nil =>
      cases hsteps
      exact ⟨memory, _, by simpa using h, hgoing⟩
    | cons first before =>
      obtain ⟨rfl, hrest⟩ := List.cons_eq_cons.1 hsteps
      obtain ⟨memory', memory'', hpast, hlater⟩ := ih (h.going hgoing) hrest
      exact ⟨memory', memory'', by simpa using hpast, hlater⟩

end Remembers

/-- In a project that is asked for its link types and for links between issues, in any order and whoever answers:
until the vocabulary was told, every operation sends the question for it, once and first; an error that is
answered is its result, an answer that cannot be read gives an error about the document, nothing else is sent
after either, and otherwise the operation goes by what was told. After that no operation sends the question, and
every one goes by the vocabulary that was told. -/
theorem vocabulary_told_once (p : Project) (respond : Program.Responder σ) (st : σ) (calls : List VocabularyCall)
    {before after : List VocabularyStep} {e : VocabularyStep}
    (h : vocabularySteps p respond calls st none = before ++ e :: after) :
    calls = before.map VocabularyStep.call ++ e.call :: after.map VocabularyStep.call ∧
    ((∀ answer types, (question, answer) ∈ before.flatMap VocabularyStep.exchanges → ¬Tells answer types) →
      ∃ answer used, e.exchanges = (question, answer) :: used ∧ (∀ exchange ∈ used, exchange.1 ≠ question) ∧
        (∀ error, answer = .error error → used = [] ∧ e.result = .error error) ∧
        (∀ document, answer = .ok document → (∀ types, ¬Tells answer types) →
          used = [] ∧ e.result = .error .json) ∧
        ∀ types, Tells answer types → e.call.Uses types used e.result) ∧
    ∀ answer types, (question, answer) ∈ before.flatMap VocabularyStep.exchanges → Tells answer types →
      (∀ exchange ∈ e.exchanges, exchange.1 ≠ question) ∧ e.call.Uses types e.exchanges e.result := by
  have hnothing : Remembers [] none := ⟨nofun, nofun⟩
  obtain ⟨memory, memory', hpast, hgoing⟩ := hnothing.of_steps h
  rw [List.nil_append] at hpast
  refine ⟨?_, fun hnot => ?_, fun answer types hmem htells => ?_⟩
  · have hcalls := map_call_vocabularySteps p respond calls st none
    rw [h, List.map_append, List.map_cons] at hcalls
    exact hcalls.symm
  · have hmemory : memory = none := by
      rw [Option.eq_none_iff_forall_ne_some]
      intro types hsome
      obtain ⟨answer, hmem, htells⟩ := hpast.telling hsome
      exact hnot answer types hmem htells
    generalize e.exchanges = exchanges, e.result = result at hgoing ⊢
    cases hgoing with
    | failed hasked =>
      cases hasked with
      | refused error =>
        refine ⟨_, [], rfl, nofun, ?_, nofun, ?_⟩
        · rintro _ ⟨⟩
          exact ⟨rfl, rfl⟩
        · rintro types ⟨document, ⟨⟩, -⟩
      | garbled hgarbled =>
        exact ⟨_, [], rfl, nofun, nofun, fun _ _ _ => ⟨rfl, rfl⟩,
          fun types htells => absurd htells (hgarbled types)⟩
    | told hasked hused =>
      cases hasked with
      | known types => cases hmemory
      | told htold =>
        refine ⟨_, _, rfl, hused.ne_question, ?_, fun _ _ hgarbled => absurd htold (hgarbled _), ?_⟩
        · rintro error rfl
          obtain ⟨document, ⟨⟩, -⟩ := htold
        · exact fun types htells => htold.unique htells ▸ hused
  · obtain rfl := hpast.told hmem htells
    generalize e.exchanges = exchanges, e.result = result at hgoing ⊢
    cases hgoing with
    | failed hasked => cases hasked
    | told hasked hused =>
      cases hasked
      exact ⟨hused.ne_question, hused⟩

/-- The link type that both ends of a blocking link are named by. -/
def LinkType.blocks : LinkType := ⟨"Blocks", "is blocked by", "blocks"⟩

/-- A document that tells one link type. -/
def LinkType.blocksDocument : Json := .obj [("issueLinkTypes", .arr [LinkType.blocks.toJson])]

/-- A document whose entry is no record of a link type. -/
def LinkType.garbledDocument : Json := .obj [("issueLinkTypes", .arr [.str "Blocks"])]

theorem vocabulary_told_once_late :
    let blocking := VocabularyCall.addLink (.ofIssue "X-1" "Open") (.ofIssue "X-2" "Open") "blocks"
    ∃ before e after, vocabularySteps .unrestricted Program.scripted [blocking, .linkTypes, blocking, .linkTypes]
        [.error (.status 503 "busy"), .ok LinkType.garbledDocument, .ok LinkType.blocksDocument, .ok .null] none =
          before ++ e :: after ∧
      before.length = 3 ∧ (∀ exchange ∈ e.exchanges, exchange.1 ≠ question) ∧
      e.call.Uses [LinkType.blocks] e.exchanges e.result := by
  intro blocking
  have hsteps : vocabularySteps .unrestricted Program.scripted [blocking, .linkTypes, blocking, .linkTypes]
      [.error (.status 503 "busy"), .ok LinkType.garbledDocument, .ok LinkType.blocksDocument, .ok .null] none = [
        ⟨blocking, [(question, .error (.status 503 "busy"))], .error (.status 503 "busy")⟩,
        ⟨.linkTypes, [(question, .ok LinkType.garbledDocument)], .error .json⟩,
        ⟨blocking, [(question, .ok LinkType.blocksDocument),
            (.post "issueLink" (Project.issueLinkDocument "Blocks" "X-1" "X-2"), .ok .null)], .ok none⟩] ++
        ⟨.linkTypes, [], .ok (some [LinkType.blocks])⟩ :: [] := rfl
  obtain ⟨-, -, htold⟩ := vocabulary_told_once _ _ _ _ hsteps
  exact ⟨_, _, _, hsteps, rfl, htold (.ok LinkType.blocksDocument) _ (by simp) ⟨_, rfl, rfl⟩⟩

end IssueTracker
