import Mathlib.Logic.Function.Basic
import PersonTracking.Library.Program
import PersonTracking.Python.Json
import PersonTracking.Python.Uuid

/-!
# The vector store

`QdrantVectorStore` as programs over the calls of the Qdrant client.  A call
may raise; what the calls do to a collection when they succeed is
`Qdrant.handler`, where points are identified by the id they were given and
every point remembers the person it was upserted for.

Three of the four operations pass an exception on.  `searchSimilar` does not:
it answers a failed query like a query without matches.
-/

namespace PersonTracking.Shared

open Library Python

/-- The id of a point, by the type it arrives in. -/
inductive PointId
  | uuid (u : Uuid)
  | str (text : String)
  | int (n : ℕ)
  | other (text : String)
deriving DecidableEq, Repr

/-- A point as it is written. -/
structure PointStruct where
  id : PointId
  vector : Json
  payload : Json

/-- A point as a query returns it. -/
structure ScoredPoint where
  id : PointId
  score : PyFloat
  payload : Json

/-- The calls of the client, and the store's own flag `_collection_checked`.
`upsert` also names the person it is made for. -/
inductive QdrantCall
  | collectionChecked
  | markCollectionChecked
  | getCollections
  | createCollection (name : String)
  | upsert (collection : String) (owner : Uuid) (point : PointStruct)
  | queryPoints (collection : String) (query : Json) (limit : ℕ) (scoreThreshold : PyFloat)
  | delete (collection : String) (points : List PointId)

/-- Their answers. -/
abbrev QdrantReply : QdrantCall → Type
  | .collectionChecked => Bool
  | .markCollectionChecked => Unit
  | .getCollections => Except PyError (List String)
  | .createCollection _ => Except PyError Unit
  | .upsert _ _ _ => Except PyError Unit
  | .queryPoints _ _ _ _ => Except PyError (List ScoredPoint)
  | .delete _ _ => Except PyError Unit

/-- An operation of the store. -/
abbrev Store (α : Type) : Type := Fallible QdrantCall QdrantReply PyError α

namespace QdrantVectorStore

/-- Make a call of the client. -/
def ask (request : QdrantCall) : Program QdrantCall QdrantReply (QdrantReply request) :=
  Program.perform request

def collectionName : String := "person_embeddings"

/-- Create the collection unless it is listed. -/
def createIfMissing (collections : List String) : Store Unit :=
  if collectionName ∈ collections then pure ()
  else Fallible.attempt (ask (.createCollection collectionName))

/-- `_ensure_collection`: look once, create the collection when it is missing. -/
def ensureCollection : Store Unit := do
  let checked : Bool ← Fallible.lift (ask .collectionChecked)
  if checked then pure ()
  else do
    let collections : List String ← Fallible.attempt (ask .getCollections)
    createIfMissing collections
    Fallible.lift (ask .markCollectionChecked)

/-- The calls of the check. -/
def Checks : QdrantCall → Prop
  | .collectionChecked | .markCollectionChecked | .getCollections | .createCollection _ => True
  | _ => False

/-- In a calculus that allows the calls of the check and gathers nothing from
them, the check changes no phase. -/
theorem ensureCollection_spec {Φ : Type} {rules : Program.Rules QdrantCall QdrantReply Φ}
    {post : Unit → Φ → Prop} {raised : PyError → Φ → Prop} {phase : Φ}
    (still : ∀ request, Checks request → rules.allowed phase request ∧
      ∀ answer, rules.after phase request answer = phase)
    (reached : post () phase) (fails : ∀ error, raised error phase) :
    Fallible.wpe rules post raised ensureCollection phase := by
  rw [ensureCollection, Fallible.wpe_bind, Fallible.wpe_lift]
  refine ⟨(still .collectionChecked trivial).1, fun checked _ => ?_⟩
  rw [(still .collectionChecked trivial).2]
  cases checked with
  | true => exact reached
  | false =>
      show Fallible.wpe rules post raised (Fallible.attempt (ask .getCollections) >>= _) phase
      rw [Fallible.wpe_bind, Fallible.wpe_attempt]
      refine ⟨(still .getCollections trivial).1, fun listed _ => ?_⟩
      rw [(still .getCollections trivial).2]
      cases listed with
      | error error => exact fails error
      | ok collections =>
          have marks : Fallible.wpe rules post raised
              (Fallible.lift (ask .markCollectionChecked) : Store Unit) phase := by
            rw [Fallible.wpe_lift]
            refine ⟨(still .markCollectionChecked trivial).1, fun _ _ => ?_⟩
            rw [(still .markCollectionChecked trivial).2]
            exact reached
          show Fallible.wpe rules post raised (createIfMissing collections >>= _) phase
          rw [Fallible.wpe_bind, createIfMissing]
          split
          · exact marks
          · rw [Fallible.wpe_attempt]
            refine ⟨(still (.createCollection collectionName) trivial).1, fun created _ => ?_⟩
            rw [(still (.createCollection collectionName) trivial).2]
            cases created with
            | error error => exact fails error
            | ok _ => exact marks

/-- `upsert_embedding`: the point's id is the text of the UUID. -/
def upsertEmbedding (personId : Uuid) (embedding metadata : Json) : Store Unit := do
  ensureCollection
  Fallible.attempt (ask (.upsert collectionName personId
    { id := .str personId.toText, vector := embedding, payload := metadata }))

/-- The person a point id is read as. -/
def personOfPoint : PointId → Except PyError Uuid
  | .uuid u => .ok u
  | .str text | .other text =>
      match Uuid.parse text with
      | some u => .ok u
      | none => .error .valueError
  | .int n =>
      match Uuid.ofInt n with
      | some u => .ok u
      | none => .error .valueError

/-- A match as the store reports it. -/
structure Match where
  personId : Uuid
  score : PyFloat
  payload : Json

/-- Read what a query returned. -/
def readMatches : List ScoredPoint → Except PyError (List Match)
  | [] => .ok []
  | found :: rest => do
      let personId ← personOfPoint found.id
      let others ← readMatches rest
      return { personId, score := found.score, payload := found.payload } :: others

theorem exists_of_mem_readMatches {results : List ScoredPoint} {matched : List Match}
    {found : Match} (read : readMatches results = .ok matched) (member : found ∈ matched) :
    ∃ scored ∈ results, personOfPoint scored.id = .ok found.personId := by
  induction results generalizing matched with
  | nil =>
      cases read
      cases member
  | cons scored rest ih =>
      cases person : personOfPoint scored.id with
      | error error =>
          rw [readMatches, person] at read
          cases read
      | ok id =>
          cases others : readMatches rest with
          | error error =>
              rw [readMatches, person, others] at read
              cases read
          | ok later =>
              rw [readMatches, person, others] at read
              cases read
              rcases List.mem_cons.mp member with rfl | after
              · exact ⟨scored, List.mem_cons_self, person⟩
              · obtain ⟨other, listed, same⟩ := ih others after
                exact ⟨other, List.mem_cons_of_mem _ listed, same⟩

/-- The `try` of `search_similar`. -/
def query (embedding : Json) (limit : ℕ) (scoreThreshold : PyFloat) : Store (List Match) := do
  let found : List ScoredPoint ←
    Fallible.attempt (ask (.queryPoints collectionName embedding limit scoreThreshold))
  Fallible.attempt (pure (readMatches found))

/-- `search_similar`: whatever goes wrong in the query, the answer is the empty list. -/
def searchSimilar (embedding : Json) (limit : ℕ) (scoreThreshold : PyFloat) :
    Store (List Match) := do
  ensureCollection
  tryCatch (query embedding limit scoreThreshold) fun _ => pure []

/-- `delete_embeddings`. -/
def deleteEmbeddings (personIds : List Uuid) : Store Unit := do
  ensureCollection
  Fallible.attempt (ask (.delete collectionName (personIds.map fun u => .str u.toText)))

end QdrantVectorStore

/-! ## What the calls do -/

/-- A stored point and the person it was upserted for. -/
structure Entry where
  owner : Uuid
  point : PointStruct

/-- Qdrant with the one collection in use, and the flag of its client.  Points
are only stored in a collection that exists. -/
structure Qdrant where
  checked : Bool
  collections : List String
  points : PointId → Option Entry
  stored : ∀ id entry, points id = some entry → QdrantVectorStore.collectionName ∈ collections

/-- A search: the points it returns for a query with a limit and a threshold. -/
abbrev Engine : Type := Qdrant → Json → ℕ → PyFloat → List ScoredPoint

/-- A search engine that returns stored points only, and looks at nothing but the points. -/
structure Engine.Finds (engine : Engine) : Prop where
  stored : ∀ q embedding limit threshold, ∀ found ∈ engine q embedding limit threshold,
    ∃ entry, q.points found.id = some entry
  samePoints : ∀ q q', q.points = q'.points → engine q = engine q'

/-- How the search compares vectors: with a threshold, it returns only points whose
vector is close to the query, and some point when there is one. -/
structure Engine.Compares (engine : Engine) (threshold : PyFloat) (close : Json → Json → Prop) :
    Prop where
  sound : ∀ q query limit, ∀ found ∈ engine q query limit threshold,
    ∃ entry, q.points found.id = some entry ∧ close query entry.point.vector
  complete : ∀ q query limit id entry, 0 < limit → q.points id = some entry →
    close query entry.point.vector → engine q query limit threshold ≠ []

/-- A search engine that never finds anything. -/
def Engine.silent : Engine := fun _ _ _ _ => []

theorem Engine.finds_silent : Engine.silent.Finds where
  stored _ _ _ _ _ member := by cases member
  samePoints _ _ _ := rfl

/-- A search engine that returns the one point with an id, if it is there. -/
def Engine.only (id : PointId) : Engine := fun q _ _ _ =>
  if (q.points id).isSome then [{ id, score := .finite false 1 0, payload := .null }] else []

theorem Engine.finds_only (id : PointId) : (Engine.only id).Finds where
  stored := by
    intro q embedding limit threshold found member
    unfold Engine.only at member
    split at member
    · rename_i present
      rw [List.mem_singleton.mp member]
      exact Option.isSome_iff_exists.mp present
    · cases member
  samePoints := by
    intro q q' same
    funext embedding limit threshold
    rw [Engine.only, Engine.only, same]

namespace Qdrant

/-- The collection exists. -/
def Present (q : Qdrant) : Prop := QdrantVectorStore.collectionName ∈ q.collections

instance (q : Qdrant) : Decidable q.Present :=
  inferInstanceAs (Decidable (QdrantVectorStore.collectionName ∈ q.collections))

/-- The client has not looked yet, and the collection does not exist. -/
def Missing (q : Qdrant) : Prop := q.checked = false ∧ ¬ q.Present

/-- The flag set. -/
def markChecked (q : Qdrant) : Qdrant := { q with checked := true }

/-- One more collection. -/
def create (q : Qdrant) (name : String) : Qdrant where
  checked := q.checked
  collections := name :: q.collections
  points := q.points
  stored id entry found := List.mem_cons_of_mem name (q.stored id entry found)

/-- A point written for a person, into the collection that is there. -/
def put (q : Qdrant) (present : q.Present) (owner : Uuid) (point : PointStruct) : Qdrant where
  checked := q.checked
  collections := q.collections
  points := Function.update q.points point.id (some { owner, point })
  stored _ _ _ := present

theorem points_put_self {q : Qdrant} {present : q.Present} {owner : Uuid} {point : PointStruct} :
    (q.put present owner point).points point.id = some { owner, point } :=
  Function.update_self _ _ _

theorem points_put_of_ne {q : Qdrant} {present : q.Present} {owner : Uuid} {point : PointStruct}
    {id : PointId} (other : id ≠ point.id) : (q.put present owner point).points id = q.points id :=
  Function.update_of_ne other _ _

/-- The points with the given ids gone. -/
def remove (q : Qdrant) (ids : List PointId) : Qdrant where
  checked := q.checked
  collections := q.collections
  points id := if id ∈ ids then none else q.points id
  stored id entry found := q.stored id entry (by
    by_cases removed : id ∈ ids
    · rw [if_pos removed] at found
      cases found
    · rwa [if_neg removed] at found)

/-- The collection, found and empty. -/
def empty : Qdrant where
  checked := true
  collections := [QdrantVectorStore.collectionName]
  points _ := none
  stored _ _ found := by cases found

theorem present_empty : empty.Present := List.mem_cons_self

/-- What the calls do, given how they fail.  A call that raises may have been
carried out: the client gives up waiting, the server does not. -/
def handler (faults : Program.Faults QdrantCall) (engine : Engine) :
    Program.Handler QdrantCall QdrantReply Qdrant
  | .collectionChecked, q => (q.checked, q)
  | .markCollectionChecked, q => ((), q.markChecked)
  | .getCollections, q =>
      if faults.raises .getCollections then (.error .qdrantError, q) else (.ok q.collections, q)
  | .createCollection name, q =>
      faults.carryOut (.createCollection name) .qdrantError q (.ok (), q.create name)
  | .upsert collection owner point, q =>
      faults.carryOut (.upsert collection owner point) .qdrantError q
        (if present : q.Present then (.ok (), q.put present owner point)
        else (.error .qdrantError, q))
  | .queryPoints collection query limit scoreThreshold, q =>
      if faults.raises (.queryPoints collection query limit scoreThreshold) then
        (.error .qdrantError, q)
      else (.ok (engine q query limit scoreThreshold), q)
  | .delete collection ids, q =>
      faults.carryOut (.delete collection ids) .qdrantError q (.ok (), q.remove ids)

/-- A point of the person, as far as its id says: the one under the text of its UUID,
or one whose id is no text. -/
def Names (point : PointId) (person : Uuid) : Prop :=
  point = .str person.toText ∨ ∀ text, point ≠ .str text

/-- The point holds a vector of the person. -/
def Holds (q : Qdrant) (point : PointId) (person : Uuid) : Prop :=
  ∃ entry, q.points point = some entry ∧ entry.owner = person

/-- A point under the UUID of the person, or a vector of the person whose point has
another kind of id. -/
structure IsOf (q : Qdrant) (point : PointId) (person : Uuid) : Prop where
  stored : q.points point ≠ none
  named : Names point person
  owned : (∀ text, point ≠ .str text) → q.Holds point person

/-- No call raises. -/
abbrev never : Program.Faults QdrantCall := .never

/-- What `_ensure_collection` leaves behind; `none` when it raises. -/
def ensured (faults : Program.Faults QdrantCall) (q : Qdrant) : Option Qdrant :=
  if q.checked then some q
  else if faults.raises .getCollections then none
  else if q.Present then some q.markChecked
  else if faults.raises (.createCollection QdrantVectorStore.collectionName) then none
  else some (q.create QdrantVectorStore.collectionName).markChecked

/-- The collection is created by a call that raises. -/
def CreatedUnheard (faults : Program.Faults QdrantCall) (q : Qdrant) : Prop :=
  faults.raises .getCollections = false ∧ ¬ q.Present ∧
    faults.raises (.createCollection QdrantVectorStore.collectionName) = true ∧
    faults.applied (.createCollection QdrantVectorStore.collectionName) = true

instance (faults : Program.Faults QdrantCall) (q : Qdrant) : Decidable (CreatedUnheard faults q) :=
  inferInstanceAs (Decidable (_ ∧ _))

/-- What `_ensure_collection` leaves behind when it raises. -/
def halted (faults : Program.Faults QdrantCall) (q : Qdrant) : Qdrant :=
  if CreatedUnheard faults q then q.create QdrantVectorStore.collectionName else q

theorem points_halted (faults : Program.Faults QdrantCall) (q : Qdrant) :
    (halted faults q).points = q.points := by
  unfold halted
  split <;> rfl

/-- What an upsert that raises leaves behind. -/
def putUnheard (faults : Program.Faults QdrantCall) (q : Qdrant) (owner : Uuid)
    (point : PointStruct) : Qdrant :=
  if present : q.Present then
    if faults.applied (.upsert QdrantVectorStore.collectionName owner point) then
      q.put present owner point
    else q
  else q

theorem putUnheard_of_not_applied {faults : Program.Faults QdrantCall} {q : Qdrant} {owner : Uuid}
    {point : PointStruct}
    (lost : ¬ faults.applied (.upsert QdrantVectorStore.collectionName owner point) = true) :
    putUnheard faults q owner point = q := by
  by_cases present : q.Present
  · rw [putUnheard, dif_pos present, if_neg lost]
  · rw [putUnheard, dif_neg present]

/-- What `search_similar` answers once the collection is checked. -/
def answered (faults : Program.Faults QdrantCall) (engine : Engine) (q : Qdrant) (embedding : Json)
    (limit : ℕ) (scoreThreshold : PyFloat) : List QdrantVectorStore.Match :=
  if faults.raises (.queryPoints QdrantVectorStore.collectionName embedding limit
    scoreThreshold) then []
  else
    match QdrantVectorStore.readMatches (engine q embedding limit scoreThreshold) with
    | .ok found => found
    | .error _ => []

/-- When the check of a client that has not looked yet raises. -/
theorem ensured_eq_none_iff {faults : Program.Faults QdrantCall} {q : Qdrant}
    (unchecked : q.checked = false) :
    ensured faults q = none ↔ faults.raises .getCollections = true ∨
      (¬ q.Present ∧
        faults.raises (.createCollection QdrantVectorStore.collectionName) = true) := by
  unfold ensured
  by_cases listed : faults.raises .getCollections = true
  · simp [unchecked, listed]
  · by_cases present : q.Present
    · simp [unchecked, listed, present]
    · simp [unchecked, listed, present]

/-- A client that has looked once does not look again. -/
theorem ensured_of_checked {faults : Program.Faults QdrantCall} {q : Qdrant}
    (checked : q.checked = true) :
    ensured faults q = some q := if_pos checked

section Ensured

variable {faults : Program.Faults QdrantCall} {q after : Qdrant}

/-- The check touches no point, and no collection unless it creates the missing one. -/
theorem ensured_spec (outcome : ensured faults q = some after) :
    after.checked = true ∧ after.points = q.points ∧
      ((¬ q.Missing ∧ after.collections = q.collections) ∨
        (q.Missing ∧ after.collections = QdrantVectorStore.collectionName :: q.collections)) := by
  unfold ensured at outcome
  split at outcome
  · rename_i checked
    cases outcome
    exact ⟨checked, rfl, Or.inl ⟨fun missing => absurd checked (by simp [missing.1]), rfl⟩⟩
  · rename_i unchecked
    split at outcome
    · cases outcome
    · split at outcome
      · rename_i present
        cases outcome
        exact ⟨rfl, rfl, Or.inl ⟨fun missing => missing.2 present, rfl⟩⟩
      · rename_i missing
        split at outcome
        · cases outcome
        · cases outcome
          exact ⟨rfl, rfl, Or.inr ⟨⟨by simpa using unchecked, missing⟩, rfl⟩⟩

theorem ensured_points (outcome : ensured faults q = some after) : after.points = q.points :=
  (ensured_spec outcome).2.1

/-- After the check the collection is there if it was there or had to be created. -/
theorem present_of_ensured (outcome : ensured faults q = some after) :
    after.Present ↔ q.Present ∨ q.Missing := by
  obtain ⟨-, -, ⟨notMissing, same⟩ | ⟨missing, created⟩⟩ := ensured_spec outcome
  · rw [Present, same]
    exact ⟨Or.inl, fun either => either.resolve_right notMissing⟩
  · rw [Present, created]
    exact ⟨fun _ => Or.inr missing, fun _ => List.mem_cons_self⟩

/-- The check changes the list of collections exactly when the collection was missing. -/
theorem collections_ensured_iff (outcome : ensured faults q = some after) :
    after.collections = q.collections ↔ ¬ q.Missing := by
  obtain ⟨-, -, ⟨notMissing, same⟩ | ⟨missing, created⟩⟩ := ensured_spec outcome
  · exact ⟨fun _ => notMissing, fun _ => same⟩
  · rw [created]
    exact ⟨fun same => absurd (congrArg List.length same) (by simp), fun not => absurd missing not⟩

/-- Nothing is found in a collection that does not exist. -/
theorem answered_of_not_present {engine : Engine} (finds : engine.Finds) (absent : ¬ q.Present)
    (embedding : Json) (limit : ℕ) (threshold : PyFloat) :
    answered faults engine q embedding limit threshold = [] := by
  have nothing : engine q embedding limit threshold = [] := by
    rw [List.eq_nil_iff_forall_not_mem]
    intro found member
    obtain ⟨entry, here⟩ := finds.stored q embedding limit threshold found member
    exact absent (q.stored _ entry here)
  rw [answered, nothing]
  split <;> rfl

/-- What a search answers depends on the points only. -/
theorem answered_ensured {engine : Engine} (finds : engine.Finds)
    (outcome : ensured faults q = some after) (embedding : Json) (limit : ℕ)
    (threshold : PyFloat) :
    answered faults engine after embedding limit threshold =
      answered faults engine q embedding limit threshold := by
  rw [answered, answered, finds.samePoints after q (ensured_points outcome)]

/-- Whoever a search reports has a point in the collection. -/
theorem exists_point_of_answered {engine : Engine} (finds : engine.Finds) {embedding : Json}
    {limit : ℕ} {threshold : PyFloat} {found : QdrantVectorStore.Match}
    (member : found ∈ answered faults engine q embedding limit threshold) :
    ∃ point entry, q.points point = some entry ∧
      QdrantVectorStore.personOfPoint point = .ok found.personId := by
  rw [answered] at member
  split at member
  · cases member
  · split at member
    · rename_i read
      obtain ⟨scored, here, person⟩ := QdrantVectorStore.exists_of_mem_readMatches read member
      obtain ⟨entry, stored⟩ := finds.stored q embedding limit threshold scored here
      exact ⟨scored.id, entry, stored, person⟩
    · cases member

end Ensured

theorem ensured_never_of_present {q : Qdrant} (present : q.Present) :
    ∃ after, ensured never q = some after ∧ after.points = q.points ∧ after.Present := by
  unfold ensured
  split
  · exact ⟨q, rfl, rfl, present⟩
  · exact ⟨q.markChecked, by simp [never], rfl, present⟩

section Exec

variable {faults : Program.Faults QdrantCall} {engine : Engine} {q : Qdrant}

theorem exec_createIfMissing :
    Fallible.exec (handler faults engine) (QdrantVectorStore.createIfMissing q.collections) q =
      if q.Present then (.ok (), q)
      else faults.carryOut (.createCollection QdrantVectorStore.collectionName) .qdrantError q
        (.ok (), q.create QdrantVectorStore.collectionName) := by
  rw [QdrantVectorStore.createIfMissing]
  by_cases present : q.Present
  · rw [if_pos present, if_pos (show QdrantVectorStore.collectionName ∈ q.collections from present)]
    rfl
  · rw [if_neg present, if_neg (show QdrantVectorStore.collectionName ∉ q.collections from present)]
    rfl

theorem exec_ensureCollection :
    Fallible.exec (handler faults engine) QdrantVectorStore.ensureCollection q =
      match ensured faults q with
      | some after => (.ok (), after)
      | none => (.error .qdrantError, halted faults q) := by
  have listed : Fallible.exec (handler faults engine)
      (Fallible.attempt (QdrantVectorStore.ask .getCollections)) q =
        if faults.raises .getCollections then (.error .qdrantError, q)
        else (.ok q.collections, q) := rfl
  rw [QdrantVectorStore.ensureCollection, ensured, Fallible.exec_bind, Fallible.exec_lift]
  show Fallible.exec _ (if q.checked then _ else _) q = _
  split
  · rfl
  · by_cases refused : faults.raises .getCollections = true
    · have unheard : ¬ CreatedUnheard faults q := fun created => by simp [created.1] at refused
      rw [if_pos refused] at listed ⊢
      rw [Fallible.exec_bind_error listed]
      dsimp only
      rw [halted, if_neg unheard]
    · rw [if_neg refused] at listed ⊢
      rw [Fallible.exec_bind_ok listed, Fallible.exec_bind, exec_createIfMissing]
      by_cases present : q.Present
      · rw [if_pos present, if_pos present]
        rfl
      · rw [if_neg present, if_neg present]
        by_cases failed : faults.raises (.createCollection QdrantVectorStore.collectionName) = true
        · -- the creation has raised: the collection is there all the same, or is not
          have unheard : CreatedUnheard faults q ↔
              faults.applied (.createCollection QdrantVectorStore.collectionName) = true :=
            ⟨fun created => created.2.2.2,
              fun applied => ⟨by simpa using refused, present, failed, applied⟩⟩
          rw [Program.Faults.carryOut_of_raises failed, if_pos failed]
          dsimp only
          rw [halted]
          simp only [unheard]
        · rw [Program.Faults.carryOut_of_quiet failed, if_neg failed]
          rfl

/-- A failed query answers like one without matches. -/
theorem exec_query (embedding : Json) (limit : ℕ) (scoreThreshold : PyFloat) :
    Fallible.exec (handler faults engine)
        (tryCatch (QdrantVectorStore.query embedding limit scoreThreshold) fun _ => pure []) q =
      (.ok (answered faults engine q embedding limit scoreThreshold), q) := by
  have queried : Fallible.exec (handler faults engine)
      (Fallible.attempt (QdrantVectorStore.ask
        (.queryPoints QdrantVectorStore.collectionName embedding limit scoreThreshold))) q =
      if faults.raises (.queryPoints QdrantVectorStore.collectionName embedding limit
        scoreThreshold) then
        (.error .qdrantError, q)
      else (.ok (engine q embedding limit scoreThreshold), q) := rfl
  rw [Fallible.exec_tryCatch, QdrantVectorStore.query, answered]
  split at queried
  · rename_i failed
    rw [Fallible.exec_bind_error queried, if_pos failed]
    rfl
  · rename_i succeeded
    rw [Fallible.exec_bind_ok queried, if_neg succeeded]
    rw [Fallible.exec_attempt, Program.pure_eq, Program.run_done]
    cases QdrantVectorStore.readMatches (engine q embedding limit scoreThreshold) <;> rfl

/-- A search raises only where the check of the collection does. -/
theorem exec_searchSimilar (embedding : Json) (limit : ℕ) (scoreThreshold : PyFloat) :
    Fallible.exec (handler faults engine)
        (QdrantVectorStore.searchSimilar embedding limit scoreThreshold) q =
      match ensured faults q with
      | some after => (.ok (answered faults engine after embedding limit scoreThreshold), after)
      | none => (.error .qdrantError, halted faults q) := by
  rw [QdrantVectorStore.searchSimilar, Fallible.exec_bind, exec_ensureCollection]
  cases ensured faults q with
  | none => rfl
  | some after => exact exec_query embedding limit scoreThreshold

/-- The deletion of vectors raises, or removes the points of all the given persons. -/
theorem exec_deleteEmbeddings (us : List Uuid) :
    Fallible.exec (handler faults engine) (QdrantVectorStore.deleteEmbeddings us) q =
      match ensured faults q with
      | none => (.error .qdrantError, halted faults q)
      | some after =>
          faults.carryOut
            (.delete QdrantVectorStore.collectionName (us.map fun u => .str u.toText))
            .qdrantError after (.ok (), after.remove (us.map fun u => .str u.toText)) := by
  rw [QdrantVectorStore.deleteEmbeddings, Fallible.exec_bind, exec_ensureCollection]
  cases ensured faults q with
  | none => rfl
  | some after => rfl

theorem exec_upsert (collection : String) (owner : Uuid) (point : PointStruct) :
    Fallible.exec (handler faults engine)
        (Fallible.attempt (QdrantVectorStore.ask (.upsert collection owner point))) q =
      faults.carryOut (.upsert collection owner point) .qdrantError q
        (if present : q.Present then (.ok (), q.put present owner point)
        else (.error .qdrantError, q)) := rfl

/-- An upsert, heard or unheard, stores its own point at most. -/
theorem points_upsert {collection : String} {owner : Uuid} {point : PointStruct} {id : PointId}
    {entry : Entry}
    (found : (Fallible.exec (handler faults engine)
      (Fallible.attempt (QdrantVectorStore.ask (.upsert collection owner point))) q).2.points id =
        some entry) :
    q.points id = some entry ∨ (id = point.id ∧ entry = { owner, point }) := by
  have written : ∀ present : q.Present, (q.put present owner point).points id = some entry →
      q.points id = some entry ∨ (id = point.id ∧ entry = { owner, point }) := by
    intro present stored
    by_cases own : id = point.id
    · rw [own, points_put_self, Option.some.injEq] at stored
      exact Or.inr ⟨own, stored.symm⟩
    · rw [points_put_of_ne own] at stored
      exact Or.inl stored
  rw [exec_upsert, Program.Faults.carryOut_snd] at found
  split at found
  · by_cases present : q.Present
    · rw [dif_pos present] at found
      exact written present found
    · rw [dif_neg present] at found
      exact Or.inl found
  · exact Or.inl found

theorem exec_upsertEmbedding (u : Uuid) (embedding metadata : Json) :
    Fallible.exec (handler faults engine)
        (QdrantVectorStore.upsertEmbedding u embedding metadata) q =
      match ensured faults q with
      | none => (.error .qdrantError, halted faults q)
      | some after =>
          faults.carryOut (.upsert QdrantVectorStore.collectionName u
            ⟨.str u.toText, embedding, metadata⟩) .qdrantError after
            (if present : after.Present then
              (.ok (), after.put present u ⟨.str u.toText, embedding, metadata⟩)
            else (.error .qdrantError, after)) := by
  rw [QdrantVectorStore.upsertEmbedding, Fallible.exec_bind, exec_ensureCollection]
  cases ensured faults q with
  | none => rfl
  | some after => exact exec_upsert _ _ _

end Exec

/-! ### When no call raises -/

section Never

variable {engine : Engine} {q : Qdrant}

theorem exec_upsert_never (present : q.Present) (collection : String) (owner : Uuid)
    (point : PointStruct) :
    Fallible.exec (handler never engine)
        (Fallible.attempt (QdrantVectorStore.ask (.upsert collection owner point))) q =
      (.ok (), q.put present owner point) := by
  rw [exec_upsert, Program.Faults.carryOut_never, dif_pos present]

theorem exec_upsertEmbedding_never (present : q.Present) (u : Uuid) (embedding metadata : Json) :
    (Fallible.exec (handler never engine)
        (QdrantVectorStore.upsertEmbedding u embedding metadata) q).2.points =
        Function.update q.points (.str u.toText)
          (some { owner := u, point := ⟨.str u.toText, embedding, metadata⟩ }) ∧
      (Fallible.exec (handler never engine)
        (QdrantVectorStore.upsertEmbedding u embedding metadata) q).2.Present := by
  obtain ⟨after, outcome, same, stillPresent⟩ := ensured_never_of_present present
  rw [exec_upsertEmbedding, outcome, ← same]
  dsimp only
  rw [Program.Faults.carryOut_never, dif_pos stillPresent]
  exact ⟨rfl, stillPresent⟩

theorem exec_deleteEmbeddings_never (present : q.Present) (us : List Uuid) :
    (Fallible.exec (handler never engine) (QdrantVectorStore.deleteEmbeddings us) q).2.points =
        (fun id => if id ∈ us.map (fun u => PointId.str u.toText) then none else q.points id) ∧
      (Fallible.exec (handler never engine)
        (QdrantVectorStore.deleteEmbeddings us) q).2.Present := by
  obtain ⟨after, outcome, same, stillPresent⟩ := ensured_never_of_present present
  rw [exec_deleteEmbeddings, outcome, ← same]
  exact ⟨rfl, stillPresent⟩

/-- A search that fails to read some id reports nothing, any other reports what
the engine found. -/
theorem exec_searchSimilar_never (present : q.Present) (finds : engine.Finds) (embedding : Json)
    (limit : ℕ) (scoreThreshold : PyFloat) :
    (Fallible.exec (handler never engine)
        (QdrantVectorStore.searchSimilar embedding limit scoreThreshold) q).1 =
      .ok (match QdrantVectorStore.readMatches (engine q embedding limit scoreThreshold) with
        | .ok found => found
        | .error _ => []) := by
  obtain ⟨after, outcome, same, -⟩ := ensured_never_of_present present
  rw [exec_searchSimilar, outcome, ← finds.samePoints after q same]
  rfl

end Never

end Qdrant

end PersonTracking.Shared
