import PersonTracking.Analytics.Stores

/-!
# Whom a transaction is about

A person event that has an embedding names one person: the one its search has
found, or a new one whose vector it indexes before it commits.  A `Stage` is how
far a transaction has come with that, and `processMessageCallback_names` says that
every transaction keeps to it, whatever the stores answer.
-/

namespace PersonTracking.Analytics

open Library Python Shared Domain

/-- How far a transaction has come: it has not searched yet; it has searched in
vain; its person is known, with whether the vector is in the store and which
tracking row is collected; it is committed. -/
inductive Stage
  | searching
  | missed
  | named (person : Uuid) (indexed : Bool) (event : Option Uuid)
  | finished (person event : Uuid)
deriving DecidableEq, Repr

namespace Stage

/-- What the answer of a search makes of a transaction. -/
def ofQuery : Except PyError (List ScoredPoint) → Stage
  | .error _ => missed
  | .ok results =>
      match QdrantVectorStore.readMatches results with
      | .ok (found :: _) => named found.personId true none
      | _ => missed

/-- What an answered call makes of a transaction. -/
def next (stage : Stage) : (request : Call) → Reply request → Stage
  | .openSession, _ | .rollback, _ => searching
  | .qdrant (.queryPoints _ _ _ _), answer => ofQuery answer
  | .qdrant (.upsert _ _ _), .ok () =>
      match stage with
      | named person _ event => named person true event
      | other => other
  | .uuid4, id =>
      match stage with
      | missed => named id false none
      | other => other
  | .addTrackingEvent event, _ =>
      match stage with
      | named person indexed _ => named person indexed (some event.id)
      | other => other
  | .commit, .ok () =>
      match stage with
      | named person _ (some event) => finished person event
      | other => other
  | _, _ => stage

/-- What a transaction may call. -/
def Allows (embedding : Json) (detection : Detection) (stage : Stage) : Call → Prop
  | .openSession | .rollback | .selectPerson _ _ => True
  | .qdrant .collectionChecked | .qdrant .markCollectionChecked | .qdrant .getCollections
  | .qdrant (.createCollection _) => True
  | .qdrant (.queryPoints _ query limit threshold) =>
      stage = searching ∧ query = embedding ∧ limit = 1 ∧ threshold = matchThreshold
  | .qdrant (.upsert _ _ point) =>
      ∃ person, stage = named person false none ∧ point.id = .str person.toText ∧
        point.vector = embedding
  | .uuid4 => stage = missed ∨ ∃ person, stage = named person true none
  | .addPerson person | .updatePerson person => ∃ indexed, stage = named person.id indexed none
  | .addTrackingEvent event =>
      ∃ person, stage = named person true none ∧ event = detection.trackingEvent event.id person
  | .commit => ∃ person event, stage = named person true (some event)
  | .qdrant (.delete _ _) | .dumps _ | .produce _ _ _ | .pollProducer => False

end Stage

/-- A row that is read is that of the person asked for. -/
def ReadsKeyed : (request : Call) → Reply request → Prop
  | .selectPerson _ id, .ok row => ∀ person, row = some person → person.id = id
  | _, _ => True

/-- The calculus of a transaction for one detection. -/
def naming (embedding : Json) (detection : Detection) : Program.Rules Call Reply Stage where
  allowed stage request := stage.Allows embedding detection request
  admits _ request answer := ReadsKeyed request answer
  after stage request answer := stage.next request answer

/-- A person event with a vector to search with. -/
structure SearchableEvent (embedding payload : Json) (detection : Detection) : Prop where
  read : readEvent payload = .ok detection
  kind : detection.kind = .person
  vector : detection.detection.getD "embedding" (.arr []) = .ok embedding
  searchable : isReidVector embedding = .ok true

section Specifications

variable {embedding payload : Json} {detection : Detection} {stage : Stage} {person : Uuid}

/-- An exception may leave the transaction at any stage, until it is rolled back. -/
abbrev anyStage (_ : PyError) (_ : Stage) : Prop := True

/-- An expression that does not raise. -/
theorem wpe_evaluate_ok {Φ α : Type} {rules : Program.Rules Call Reply Φ} {post : α → Φ → Prop}
    {raised : PyError → Φ → Prop} {value : α} {phase : Φ} :
    Fallible.wpe rules post raised (evaluate (.ok value)) phase ↔ post value phase := Iff.rfl

/-- The check of the collection names nobody. -/
theorem checks_still (embedding : Json) (detection : Detection) (stage : Stage)
    (request : QdrantCall) (checks : QdrantVectorStore.Checks request) :
    ((naming embedding detection).within Call.qdrant).allowed stage request ∧
      ∀ answer, ((naming embedding detection).within Call.qdrant).after stage request answer =
        stage := by
  cases request with
  | collectionChecked | markCollectionChecked | getCollections | createCollection _ =>
      exact ⟨trivial, fun _ => rfl⟩
  | upsert _ _ _ | queryPoints _ _ _ _ | delete _ _ => cases checks

/-- The search leaves the person it has found. -/
theorem findPerson_names (searchable : isReidVector embedding = .ok true) :
    Fallible.wpe (naming embedding detection)
      (fun found later => later = match found with
        | some person => .named person true none
        | none => .missed) anyStage (findPerson embedding) .searching := by
  rw [findPerson, searchable, Fallible.wpe_bind, wpe_evaluate_ok, if_pos rfl, Fallible.wpe_bind,
    vectorStore, Fallible.wpe_relabel, QdrantVectorStore.searchSimilar, Fallible.wpe_bind]
  refine QdrantVectorStore.ensureCollection_spec (checks_still embedding detection .searching) ?_
    fun _ => trivial
  rw [Fallible.wpe_tryCatch, QdrantVectorStore.query, Fallible.wpe_bind, Fallible.wpe_attempt]
  refine ⟨⟨rfl, rfl, rfl, rfl⟩, fun answer _ => ?_⟩
  cases answer with
  | error error => exact rfl
  | ok results =>
      show Fallible.wpe ((naming embedding detection).within Call.qdrant) _ _
        (Fallible.attempt (pure (QdrantVectorStore.readMatches results)))
        (Stage.ofQuery (.ok results))
      rw [Fallible.wpe_attempt, Program.pure_eq, Program.wp_done, Stage.ofQuery]
      generalize QdrantVectorStore.readMatches results = read
      cases read with
      | error error => exact rfl
      | ok found =>
          cases found with
          | nil => exact rfl
          | cons best rest => exact rfl

/-- `upsert_person` writes the person the transaction is about. -/
theorem upsertPerson_names (indexed : Bool) {row : Person} (own : row.id = person) :
    Fallible.wpe (naming embedding detection)
      (fun _ later => later = .named person indexed none) anyStage
      (upsertPerson row) (.named person indexed none) := by
  subst own
  rw [upsertPerson, Fallible.wpe_bind, Fallible.wpe_attempt]
  refine ⟨trivial, fun answer _ => ?_⟩
  cases answer with
  | error error => exact trivial
  | ok found =>
      cases found with
      | none => exact ⟨⟨indexed, rfl⟩, fun _ _ => rfl⟩
      | some old => exact ⟨⟨indexed, rfl⟩, fun _ _ => rfl⟩

/-- A matched id is counted under its own row. -/
theorem updateMatched_names {timestamp : DateTime} :
    Fallible.wpe (naming embedding detection)
      (fun _ later => later = .named person true none) anyStage
      (updateMatched person timestamp) (.named person true none) := by
  rw [updateMatched, Fallible.wpe_bind, getById, Fallible.wpe_attempt]
  refine ⟨trivial, fun answer keyed => ?_⟩
  cases answer with
  | error error => exact trivial
  | ok row =>
      cases row with
      | none => exact upsertPerson_names true rfl
      | some old =>
          show Fallible.wpe _ _ _ (evaluate (old.updateAppearance timestamp) >>= _) _
          rw [Fallible.wpe_bind, evaluate, Fallible.wpe_attempt, Program.pure_eq, Program.wp_done]
          cases counted : old.updateAppearance timestamp with
          | error error => exact trivial
          | ok updated =>
              obtain ⟨_, _, -, -, rfl⟩ := Person.updateAppearance_eq_ok counted
              exact upsertPerson_names true (keyed old rfl)

/-- A new identity is indexed before anything else is saved. -/
theorem createPerson_names {timestamp : DateTime}
    (searchable : isReidVector embedding = .ok true) :
    Fallible.wpe (naming embedding detection)
      (fun person later => later = .named person true none) anyStage
      (createPerson embedding timestamp) .missed := by
  rw [createPerson, Fallible.wpe_bind, Fallible.wpe_lift]
  refine ⟨Or.inl rfl, fun person _ => ?_⟩
  rw [Program.wp_done, Fallible.wpe_bind]
  refine Fallible.wpe_mono (fun _ later same => ?_) (fun _ _ _ => trivial)
    (upsertPerson_names false rfl)
  subst same
  rw [Fallible.wpe_bind, indexEmbedding, searchable, Fallible.wpe_bind, wpe_evaluate_ok,
    if_pos rfl, vectorStore, Fallible.wpe_relabel, QdrantVectorStore.upsertEmbedding,
    Fallible.wpe_bind]
  refine QdrantVectorStore.ensureCollection_spec (checks_still embedding detection _) ?_
    fun _ => trivial
  rw [Fallible.wpe_attempt]
  refine ⟨⟨person, rfl, rfl, rfl⟩, fun answer _ => ?_⟩
  cases answer with
  | error error => exact trivial
  | ok _ => exact rfl

/-- The tracking row is the person's. -/
theorem saveEvent_names :
    Fallible.wpe (naming embedding detection)
      (fun _ later => ∃ event, later = .named person true (some event)) anyStage
      (saveEvent person detection) (.named person true none) := by
  rw [saveEvent, Fallible.wpe_bind, Fallible.wpe_lift]
  refine ⟨Or.inr ⟨person, rfl⟩, fun event _ => ?_⟩
  rw [Program.wp_done, Fallible.wpe_lift]
  exact ⟨⟨person, rfl, rfl⟩, fun _ _ => ⟨event, rfl⟩⟩

/-- A person event is logged for the person it names. -/
theorem handlePersonDetection_names (searchable : isReidVector embedding = .ok true) :
    Fallible.wpe (naming embedding detection)
      (fun _ later => ∃ person event, later = .named person true (some event)) anyStage
      (handlePersonDetection detection embedding) .searching := by
  rw [handlePersonDetection, Fallible.wpe_bind]
  refine Fallible.wpe_mono (fun found later same => ?_) (fun _ _ _ => trivial)
    (findPerson_names searchable)
  subst same
  cases found with
  | some person =>
      show Fallible.wpe _ _ _ (updateMatched person detection.timestamp >>= _) _
      rw [Fallible.wpe_bind]
      refine Fallible.wpe_mono (fun _ later same => ?_) (fun _ _ _ => trivial) updateMatched_names
      subst same
      exact Fallible.wpe_mono (fun _ _ logged => ⟨person, logged⟩) (fun _ _ _ => trivial)
        saveEvent_names
  | none =>
      show Fallible.wpe _ _ _ (createPerson embedding detection.timestamp >>= _) _
      rw [Fallible.wpe_bind]
      refine Fallible.wpe_mono (fun person later same => ?_) (fun _ _ _ => trivial)
        (createPerson_names searchable)
      subst same
      exact Fallible.wpe_mono (fun _ _ logged => ⟨person, logged⟩) (fun _ _ _ => trivial)
        saveEvent_names

/-- Where a transaction may end: it is committed and returns, or it raises and is
rolled back. -/
def Ended (result : Except PyError Unit) (stage : Stage) : Prop :=
  match result with
  | .ok _ => ∃ person event, stage = .finished person event
  | .error _ => stage = .searching

/-- **Every transaction names one person**, indexes it where it is new, and commits
the row of its detection for it; or it is rolled back. -/
theorem processMessageCallback_names (sighting : SearchableEvent embedding payload detection)
    (stage : Stage) :
    Program.wp (naming embedding detection) Ended (processMessageCallback payload).run stage := by
  have rescued : ∀ error (later : Stage), Fallible.wpe (naming embedding detection)
      (fun _ later => ∃ person event, later = .finished person event)
      (fun _ later => later = .searching)
      (do
        Fallible.attempt (ask .rollback)
        throw error : Service Unit) later := by
    intro error later
    exact Fallible.wpe_rethrow ⟨trivial, fun _ _ _ => rfl⟩
  have whole : Fallible.wpe (naming embedding detection)
      (fun _ later => ∃ person event, later = .finished person event)
      (fun _ later => later = .searching) (processMessageCallback payload) stage := by
    rw [processMessageCallback, Fallible.wpe_bind, Fallible.wpe_lift]
    refine ⟨trivial, fun _ _ => ?_⟩
    rw [Program.wp_done, Fallible.wpe_tryCatch, executeAndCommit, Fallible.wpe_bind, execute,
      sighting.read, Fallible.wpe_bind, wpe_evaluate_ok, handleDetection, sighting.kind]
    dsimp only
    rw [sighting.vector, Fallible.wpe_bind, wpe_evaluate_ok]
    refine Fallible.wpe_mono (fun _ later logged => ?_) (fun error later _ => rescued error later)
      (handlePersonDetection_names sighting.searchable)
    obtain ⟨person, event, rfl⟩ := logged
    rw [Fallible.wpe_attempt]
    refine ⟨⟨person, event, rfl⟩, fun committed _ => ?_⟩
    cases committed with
    | error error => exact rescued error _
    | ok value => exact ⟨person, event, rfl⟩
  refine Program.wp_mono (fun result later ended => ?_) whole
  cases result with
  | ok value => exact ended
  | error error => exact ended

end Specifications

end PersonTracking.Analytics
