import Mathlib.Algebra.Order.Ring.Rat
import PersonTracking.Library.Transition

/-!
# Answers that come late

`SearchResults` shows the trail of the person that was selected last, `PersonSearchPage`
the matches of the embedding that is selected.  Both write what a request returns when it
returns, and neither asks whether the selection is still the one the request was made for.

`displayed_iff_timely` says exactly in which runs what is shown belongs to the selection
whenever no request is under way.  `shown_for_another` are two runs in which it does not.
-/

namespace PersonTracking.Web

open Library

universe u v

/-- The requests of a component: those that are under way, and what was shown for those
that were answered, newest first. -/
structure Requests (Q : Type u) (α : Type v) where
  waiting : List Q
  answered : List (Q × List α)

/-- How a request ends.  A body may lack the list. -/
inductive Response (α : Type v)
  | success (items : Option (List α))
  | failure

/-- `res.data.items || []`, and `[]` after an error. -/
def Response.items {α : Type v} : Response α → List α
  | success items => items.getD []
  | failure => []

namespace Requests

variable {Q : Type u} {α : Type v} [DecidableEq Q]

/-- No request has been made yet. -/
def empty : Requests Q α := ⟨[], []⟩

/-- A request is sent. -/
def send (requests : Requests Q α) (request : Q) : Requests Q α :=
  { requests with waiting := request :: requests.waiting }

/-- A request is answered, and these items are shown. -/
def answer (requests : Requests Q α) (request : Q) (items : List α) : Requests Q α where
  waiting := requests.waiting.erase request
  answered := (request, items) :: requests.answered

/-- An answer leaves nothing under way just in case its request was the only one. -/
theorem waiting_answer {requests : Requests Q α} {request : Q} (items : List α)
    (member : request ∈ requests.waiting) :
    (requests.answer request items).waiting = [] ↔ requests.waiting = [request] := by
  rw [answer, List.erase_eq_nil_iff]
  exact ⟨fun only => only.resolve_left (List.ne_nil_of_mem member), .inr⟩

end Requests

/-! ## The trail of a person -/

/-- The state of `SearchResults`. -/
structure SearchResults (TrailPoint : Type u) where
  selectedPersonId : Option String
  trailPoints : List TrailPoint
  isTrailLoading : Bool
  requests : Requests String TrailPoint

/-- What can happen to `SearchResults`. -/
inductive TrailStep (TrailPoint : Type u)
  | fetchTrail (personId : String)
  | answered (personId : String) (response : Response TrailPoint)

namespace SearchResults

variable {TrailPoint : Type u}

/-- The component when it mounts. -/
def start : SearchResults TrailPoint where
  selectedPersonId := none
  trailPoints := []
  isTrailLoading := false
  requests := .empty

/-- `handleFetchTrail` up to its request. -/
def handleFetchTrail (view : SearchResults TrailPoint) (personId : String) :
    SearchResults TrailPoint :=
  { view with
    selectedPersonId := some personId
    isTrailLoading := true
    requests := view.requests.send personId }

/-- The rest of `handleFetchTrail`. -/
def trailAnswered (view : SearchResults TrailPoint) (personId : String)
    (response : Response TrailPoint) : SearchResults TrailPoint :=
  { view with
    trailPoints := response.items
    isTrailLoading := false
    requests := view.requests.answer personId response.items }

/-- One step. -/
def step (view : SearchResults TrailPoint) :
    TrailStep TrailPoint → Option (SearchResults TrailPoint)
  | .fetchTrail personId => some (view.handleFetchTrail personId)
  | .answered personId response =>
      if personId ∈ view.requests.waiting then some (view.trailAnswered personId response)
      else none

/-- The items were shown for a request for the selected person. -/
def ShownFor (view : SearchResults TrailPoint) (items : List TrailPoint) : Prop :=
  ∃ personId, view.selectedPersonId = some personId ∧ (personId, items) ∈ view.requests.answered

/-- **The trail belongs to the selection** when no request is under way: it is what a
request for the selected person returned, empty if it failed. -/
def Belongs (view : SearchResults TrailPoint) : Prop :=
  view.requests.waiting = [] →
    (view.selectedPersonId = none ∧ view.trailPoints = []) ∨ view.ShownFor view.trailPoints

/-- The condition on a step: the answer that comes last is for the selected person, or
shows what an answer for that person has shown before. -/
def Timely (view : SearchResults TrailPoint) : TrailStep TrailPoint → Prop
  | .fetchTrail _ => True
  | .answered personId response =>
      view.requests.waiting = [personId] →
        view.selectedPersonId = some personId ∨ view.ShownFor response.items

/-- What every step keeps. -/
structure Consistent (view : SearchResults TrailPoint) : Prop where
  belongs : view.Belongs
  selected : view.requests.waiting ≠ [] → view.selectedPersonId ≠ none

variable {view after : SearchResults TrailPoint}

theorem consistent_start : (start : SearchResults TrailPoint).Consistent where
  belongs _ := .inl ⟨rfl, rfl⟩
  selected waiting := absurd rfl waiting

/-- **One step.** -/
theorem consistent_step {next : TrailStep TrailPoint} (consistent : view.Consistent)
    (timely : view.Timely next) (moved : view.step next = some after) : after.Consistent := by
  cases next with
  | fetchTrail personId =>
      cases moved
      exact ⟨fun waiting => absurd waiting (List.cons_ne_nil _ _), fun _ => Option.some_ne_none _⟩
  | answered personId response =>
      obtain ⟨member, ⟨⟩⟩ := Option.ite_none_right_eq_some.mp moved
      have selected := consistent.selected (List.ne_nil_of_mem member)
      refine ⟨fun waiting => .inr ?_, fun _ => selected⟩
      rcases timely ((Requests.waiting_answer _ member).mp waiting) with same | ⟨other, same, shown⟩
      · exact ⟨personId, same, List.mem_cons_self⟩
      · exact ⟨other, same, List.mem_cons_of_mem _ shown⟩

/-- The last answer, for another person, shows what no answer for the selected one did. -/
theorem not_belongs_of_not_timely {next : TrailStep TrailPoint} (consistent : view.Consistent)
    (late : ¬ view.Timely next) : ∃ after, view.step next = some after ∧ ¬ after.Belongs := by
  cases next with
  | fetchTrail personId => exact absurd trivial late
  | answered personId response =>
      simp only [Timely, Classical.not_imp, not_or] at late
      obtain ⟨only, another, unseen⟩ := late
      have member : personId ∈ view.requests.waiting := only ▸ List.mem_singleton_self personId
      refine ⟨_, if_pos member, fun belongs => ?_⟩
      rcases belongs ((Requests.waiting_answer _ member).mpr only) with ⟨nobody, -⟩ | shown
      · exact consistent.selected (List.ne_nil_of_mem member) nobody
      · obtain ⟨other, same, inAnswered⟩ := shown
        rcases List.mem_cons.mp inAnswered with here | before
        · cases here
          exact another same
        · exact unseen ⟨other, same, before⟩

/-- **The trail belongs to the selection** after every step of a run if and only if every
step of it is timely. -/
theorem belongs_iff_timely (steps : List (TrailStep TrailPoint)) :
    (∀ taken after, taken <+: steps → runFrom step start taken = some after → after.Belongs) ↔
      Meets Timely step start steps :=
  forall_prefix_iff_meets (fun _ consistent => consistent.belongs)
    (fun _ _ _ => consistent_step) (fun _ _ => not_belongs_of_not_timely) consistent_start

end SearchResults

/-! ## The matches of an embedding -/

/-- The body of a search request. -/
structure SearchRequest (Embedding : Type u) where
  embedding : Embedding
  threshold : ℚ
  limit : ℕ
deriving DecidableEq

/-- The state of `PersonSearchPage`. -/
structure PersonSearchPage (Embedding : Type u) (SearchResult : Type v) where
  embedding : Option Embedding
  targetName : Option String
  targetThumb : Option String
  threshold : ℚ
  limit : ℕ
  results : List SearchResult
  isLoading : Bool
  requests : Requests (SearchRequest Embedding) SearchResult

/-- What can happen to `PersonSearchPage`. -/
inductive SearchStep (Embedding : Type u) (SearchResult : Type v)
  | selectEmbedding (emb : Embedding) (name thumb : String)
  | setThreshold (threshold : ℚ)
  | setLimit (limit : ℕ)
  | executeSearch
  | answered (request : SearchRequest Embedding) (response : Response SearchResult)

namespace PersonSearchPage

variable {Embedding : Type u} {SearchResult : Type v} [DecidableEq Embedding]

/-- The page when it mounts. -/
def start : PersonSearchPage Embedding SearchResult where
  embedding := none
  targetName := none
  targetThumb := none
  threshold := 3 / 4
  limit := 5
  results := []
  isLoading := false
  requests := .empty

/-- `handleSelectEmbedding`. -/
def handleSelectEmbedding (page : PersonSearchPage Embedding SearchResult) (emb : Embedding)
    (name thumb : String) : PersonSearchPage Embedding SearchResult :=
  { page with
    embedding := some emb
    targetName := some name
    targetThumb := some thumb
    results := [] }

/-- `handleExecuteSearch` up to its request.  Its button is disabled while a search is
under way; the handler itself does not ask. -/
def handleExecuteSearch (page : PersonSearchPage Embedding SearchResult) :
    PersonSearchPage Embedding SearchResult :=
  match page.embedding with
  | none => page
  | some embedding => { page with
      isLoading := true
      requests := page.requests.send ⟨embedding, page.threshold, page.limit⟩ }

/-- The rest of `handleExecuteSearch`. -/
def searchAnswered (page : PersonSearchPage Embedding SearchResult)
    (request : SearchRequest Embedding) (response : Response SearchResult) :
    PersonSearchPage Embedding SearchResult :=
  { page with
    results := response.items
    isLoading := false
    requests := page.requests.answer request response.items }

/-- One step. -/
def step (page : PersonSearchPage Embedding SearchResult) :
    SearchStep Embedding SearchResult → Option (PersonSearchPage Embedding SearchResult)
  | .selectEmbedding emb name thumb => some (page.handleSelectEmbedding emb name thumb)
  | .setThreshold threshold => some { page with threshold := threshold }
  | .setLimit limit => some { page with limit := limit }
  | .executeSearch => some page.handleExecuteSearch
  | .answered request response =>
      if request ∈ page.requests.waiting then some (page.searchAnswered request response) else none

/-- The items were shown for a search for the selected embedding. -/
def ShownFor (page : PersonSearchPage Embedding SearchResult) (items : List SearchResult) : Prop :=
  ∃ request, page.embedding = some request.embedding ∧ (request, items) ∈ page.requests.answered

/-- **The results belong to the selection** when no search is under way: there are none,
or they are what a search for the selected embedding returned. -/
def Belongs (page : PersonSearchPage Embedding SearchResult) : Prop :=
  page.requests.waiting = [] → page.results = [] ∨ page.ShownFor page.results

/-- The condition on a step: the answer that comes last shows nothing, or is for the
selected embedding, or shows what an answer for that embedding has shown before. -/
def Timely (page : PersonSearchPage Embedding SearchResult) :
    SearchStep Embedding SearchResult → Prop
  | .answered request response =>
      page.requests.waiting = [request] →
        response.items = [] ∨ page.embedding = some request.embedding ∨
          page.ShownFor response.items
  | _ => True

variable {page after : PersonSearchPage Embedding SearchResult}

omit [DecidableEq Embedding] in
theorem belongs_start : (start : PersonSearchPage Embedding SearchResult).Belongs :=
  fun _ => .inl rfl

/-- **One step.** -/
theorem belongs_step {next : SearchStep Embedding SearchResult} (belongs : page.Belongs)
    (timely : page.Timely next) (moved : page.step next = some after) : after.Belongs := by
  cases next with
  | selectEmbedding emb name thumb =>
      cases moved
      exact fun _ => .inl rfl
  | setThreshold threshold =>
      cases moved
      exact belongs
  | setLimit limit =>
      cases moved
      exact belongs
  | executeSearch =>
      cases moved
      unfold handleExecuteSearch
      split
      · exact belongs
      · exact fun waiting => absurd waiting (List.cons_ne_nil _ _)
  | answered request response =>
      obtain ⟨member, ⟨⟩⟩ := Option.ite_none_right_eq_some.mp moved
      intro waiting
      rcases timely ((Requests.waiting_answer _ member).mp waiting) with
        nothing | same | ⟨other, same, shown⟩
      · exact .inl nothing
      · exact .inr ⟨request, same, List.mem_cons_self⟩
      · exact .inr ⟨other, same, List.mem_cons_of_mem _ shown⟩

theorem not_belongs_of_not_timely {next : SearchStep Embedding SearchResult}
    (late : ¬ page.Timely next) : ∃ after, page.step next = some after ∧ ¬ after.Belongs := by
  cases next with
  | answered request response =>
      simp only [Timely, Classical.not_imp, not_or] at late
      obtain ⟨only, something, another, unseen⟩ := late
      have member : request ∈ page.requests.waiting := only ▸ List.mem_singleton_self request
      refine ⟨_, if_pos member, fun belongs => ?_⟩
      rcases belongs ((Requests.waiting_answer _ member).mpr only) with nothing | shown
      · exact something nothing
      · obtain ⟨other, same, inAnswered⟩ := shown
        rcases List.mem_cons.mp inAnswered with here | before
        · cases here
          exact another same
        · exact unseen ⟨other, same, before⟩
  | _ => exact absurd trivial late

/-- **The results belong to the selection** after every step of a run if and only if every
step of it is timely. -/
theorem belongs_iff_timely (steps : List (SearchStep Embedding SearchResult)) :
    (∀ taken after, taken <+: steps → runFrom step start taken = some after → after.Belongs) ↔
      Meets Timely step start steps :=
  forall_prefix_iff_meets (fun _ => id) (fun _ _ _ => belongs_step)
    (fun _ _ _ => not_belongs_of_not_timely) belongs_start

end PersonSearchPage

/-! ## Both components -/

/-- **What is shown belongs to the selection**, for both components and after every step
of a run in any order, if and only if every step is timely: the answer that comes last is
for what is selected, or makes no difference. -/
theorem displayed_iff_timely {TrailPoint Embedding SearchResult : Type} [DecidableEq Embedding]
    (trail : List (TrailStep TrailPoint)) (search : List (SearchStep Embedding SearchResult)) :
    ((∀ taken after, taken <+: trail →
        runFrom SearchResults.step .start taken = some after → after.Belongs) ↔
      Meets SearchResults.Timely SearchResults.step .start trail) ∧
    ((∀ taken after, taken <+: search →
        runFrom PersonSearchPage.step .start taken = some after → after.Belongs) ↔
      Meets PersonSearchPage.Timely PersonSearchPage.step .start search) :=
  ⟨SearchResults.belongs_iff_timely trail, PersonSearchPage.belongs_iff_timely search⟩

/-- Two persons are selected, and the first one's trail comes last. -/
def lateTrail : List (TrailStep ℕ) :=
  [.fetchTrail "first", .fetchTrail "second", .answered "second" (.success (some [2])),
    .answered "first" (.success (some [1]))]

/-- Another target is selected while a search is under way. -/
def lateSearch : List (SearchStep ℕ ℕ) :=
  [.selectEmbedding 1 "A" "a.png", .executeSearch, .selectEmbedding 2 "B" "b.png",
    .answered ⟨1, 3 / 4, 5⟩ (.success (some [1]))]

/-- **Shown for another**: the first person's trail under the second one's name, and the
first target's matches under the second one's. -/
theorem shown_for_another :
    (∃ view, runFrom SearchResults.step .start lateTrail = some view ∧
      view.requests.waiting = [] ∧ view.selectedPersonId = some "second" ∧
        view.trailPoints = [1] ∧ ¬ view.Belongs) ∧
    ∃ page, runFrom PersonSearchPage.step .start lateSearch = some page ∧
      page.requests.waiting = [] ∧ page.embedding = some 2 ∧ page.results = [1] ∧
        ¬ page.Belongs := by
  let asked :=
    ((.start : PersonSearchPage ℕ ℕ).handleSelectEmbedding 1 "A" "a.png").handleExecuteSearch
  have reached : runFrom PersonSearchPage.step .start lateSearch =
      some ((asked.handleSelectEmbedding 2 "B" "b.png").searchAnswered ⟨1, 3 / 4, 5⟩
        (.success (some [1]))) := by
    have member : (⟨1, 3 / 4, 5⟩ : SearchRequest ℕ) ∈ [⟨1, 3 / 4, 5⟩] := List.mem_singleton_self _
    exact (congrArg (Option.bind · _) (if_pos member)).trans rfl
  refine ⟨⟨_, rfl, rfl, rfl, rfl, fun belongs => ?_⟩,
    ⟨_, reached, List.erase_cons_head _ _, rfl, rfl, fun belongs => ?_⟩⟩
  · rcases belongs rfl with ⟨nobody, -⟩ | ⟨personId, same, shown⟩
    · cases nobody
    · cases same
      simp [SearchResults.trailAnswered, Requests.answer, Response.items,
        SearchResults.handleFetchTrail, SearchResults.start, Requests.send, Requests.empty] at shown
  · rcases belongs (List.erase_cons_head _ _) with nothing | ⟨request, same, shown⟩
    · cases nothing
    · have only := List.mem_singleton.mp shown
      cases only
      cases same

end PersonTracking.Web
