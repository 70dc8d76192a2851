import PersonTracking.Shared.Qdrant
import PersonTracking.Shared.Security

/-!
# Search by image

`POST /search/by-image` as a program over the calls of the vector store.  A request has
passed its validation, so a `SearchByImageRequest` carries what the validation checks; the
route checks the dimensions again, and the threshold against a bound of its own.

`exec_searchByImage` is what the route does against a store: it refuses a low threshold
without asking the store anything, it fails where the check of the collection does, and a
query that fails is answered like one that finds nobody.
-/

namespace PersonTracking.SearchService

open Library Python Shared

/-- `SearchByImageRequest`, validated. -/
structure SearchByImageRequest where
  embedding : List PyFloat
  limit : Option ℕ
  threshold : Option PyFloat
  dimensions : embedding.length = 512
  limited : ∀ n, limit = some n → 1 ≤ n ∧ n ≤ 50
  within : ∀ x, threshold = some x →
    x.lt (.finite false 0 0) = false ∧ (PyFloat.finite false 1 0).lt x = false

/-- `SearchResult`. -/
structure SearchResult where
  personId : String
  score : PyFloat
  payload : List (String × Json)

/-- `SearchResponse`. -/
structure SearchResponse where
  results : List SearchResult

/-- A vector of another length. -/
def wrongDimensions : HTTPException where
  statusCode := 422
  detail := "Embedding vector must be exactly 512 dimensions."

/-- A threshold the route does not allow. -/
def lowThreshold : HTTPException where
  statusCode := 400
  detail := "Similarity threshold must be 0.50 or higher to prevent resource exhaustion."

/-- The least threshold the route allows. -/
def leastThreshold : PyFloat := .finite false 5 (-1)

namespace SearchByImageRequest

variable (data : SearchByImageRequest)

/-- `threshold`, 0.70 where it is not given. -/
def scoreThreshold : PyFloat := data.threshold.getD (.finite false 7 (-1))

/-- `limit`, 5 where it is not given. -/
def atMost : ℕ := data.limit.getD 5

/-- The vector as it is sent to the store. -/
def query : Json := .arr (data.embedding.map .float)

end SearchByImageRequest

/-- `require_operator`. -/
def allowedRoles : List Role := [.admin, .operator]

/-- `SearchResult(...)` of a match: a payload that is no dict does not pass. -/
def searchResult (found : QdrantVectorStore.Match) : Except PyError SearchResult :=
  match found.payload with
  | .obj fields =>
      .ok { personId := found.personId.toText, score := found.score, payload := fields }
  | _ => .error .valueError

/-- `search_by_image_embedding`. -/
def searchByImageEmbedding (embedding : List PyFloat) (limit : ℕ) (threshold : PyFloat) :
    Store (List QdrantVectorStore.Match) :=
  if embedding = [] ∨ embedding.length ≠ 512 then pure []
  else QdrantVectorStore.searchSimilar (.arr (embedding.map .float)) limit threshold

/-- The rest of the route, after its own checks. -/
def searchMatches (data : SearchByImageRequest) : Store (Except HTTPException SearchResponse) := do
  let found ← searchByImageEmbedding data.embedding data.atMost data.scoreThreshold
  let results ← Fallible.attempt (pure (found.mapM searchResult))
  return .ok { results }

/-- The route `search_by_image`, for a user it lets in. -/
def searchByImage (data : SearchByImageRequest) : Store (Except HTTPException SearchResponse) :=
  if data.embedding.length ≠ 512 then pure (.error wrongDimensions)
  else if data.scoreThreshold.lt leastThreshold then pure (.error lowThreshold)
  else searchMatches data

section Exec

variable {faults : Program.Faults QdrantCall} {engine : Engine} {q : Qdrant}
  (data : SearchByImageRequest)

/-- A request has a vector to search with. -/
theorem searchByImageEmbedding_eq :
    searchByImageEmbedding data.embedding data.atMost data.scoreThreshold =
      QdrantVectorStore.searchSimilar data.query data.atMost data.scoreThreshold := by
  have long := data.dimensions
  refine if_neg (not_or.mpr ⟨?_, not_not.mpr long⟩)
  intro blank
  rw [blank] at long
  cases long

/-- **What the route does.** -/
theorem exec_searchByImage :
    Fallible.exec (Qdrant.handler faults engine) (searchByImage data) q =
      if data.scoreThreshold.lt leastThreshold then (.ok (.error lowThreshold), q)
      else
        match Qdrant.ensured faults q with
        | none => (.error .qdrantError, Qdrant.halted faults q)
        | some after =>
            (((Qdrant.answered faults engine after data.query data.atMost
              data.scoreThreshold).mapM searchResult).map fun results =>
                .ok { results }, after) := by
  rw [searchByImage, if_neg (not_not.mpr data.dimensions)]
  split
  · rfl
  · rw [searchMatches, searchByImageEmbedding_eq, Fallible.exec_bind,
      Qdrant.exec_searchSimilar]
    cases Qdrant.ensured faults q with
    | none => rfl
    | some after =>
        dsimp only
        rw [Fallible.exec_bind, Fallible.exec_attempt, Program.pure_eq, Program.run_done]
        generalize List.mapM searchResult _ = read
        cases read <;> rfl

end Exec

/-- A search engine that returns stored points with the payloads they are stored with. -/
structure Returns (engine : Engine) : Prop extends engine.Finds where
  payload : ∀ q embedding limit threshold, ∀ found ∈ engine q embedding limit threshold,
    ∀ entry, q.points found.id = some entry → found.payload = entry.point.payload

/-- A result says of a point what was found. -/
structure SearchResult.Reports (result : SearchResult) (found : ScoredPoint) : Prop where
  person : ∃ person, QdrantVectorStore.personOfPoint found.id = .ok person ∧
    result.personId = person.toText
  score : result.score = found.score
  payload : Json.obj result.payload = found.payload

/-- **Points that can be read are all reported**, in their order. -/
theorem forall₂_reports {leads : String → Prop} {found : List ScoredPoint}
    (readable : ∀ point ∈ found, ∃ person, QdrantVectorStore.personOfPoint point.id = .ok person ∧
      leads person.toText ∧ ∃ fields, point.payload = .obj fields) :
    ∃ matched results, QdrantVectorStore.readMatches found = .ok matched ∧
      matched.mapM searchResult = .ok results ∧
        List.Forall₂ SearchResult.Reports results found ∧
          ∀ result ∈ results, leads result.personId := by
  induction found with
  | nil => exact ⟨[], [], rfl, rfl, .nil, nofun⟩
  | cons point rest ih =>
      obtain ⟨matched, results, read, mapped, reports, lead⟩ :=
        ih fun other member => readable other (List.mem_cons_of_mem _ member)
      obtain ⟨person, named, leading, fields, carried⟩ := readable point List.mem_cons_self
      have here : searchResult ⟨person, point.score, point.payload⟩ =
          .ok { personId := person.toText, score := point.score, payload := fields } := by
        rw [searchResult, carried]
      refine ⟨⟨person, point.score, point.payload⟩ :: matched,
        ⟨person.toText, point.score, fields⟩ :: results, ?_, ?_,
        .cons ⟨⟨person, named, rfl⟩, rfl, carried.symm⟩ reports,
        List.forall_mem_cons.mpr ⟨leading, lead⟩⟩
      · rw [QdrantVectorStore.readMatches, named, read]
        rfl
      · rw [List.mapM_cons, here, mapped]
        rfl

end PersonTracking.SearchService
