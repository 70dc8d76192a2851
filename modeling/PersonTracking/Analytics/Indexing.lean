import PersonTracking.Analytics.Stores

/-!
# Whose vector a transaction indexes

Indexing a vector cannot be rolled back, the rows of the same transaction can.  `indexing`
is the calculus of what a transaction keeps to between the two, for any event at all: it
indexes at most one vector, under the id of its person, and once it has it commits no
session without a tracking row of that person.  `Naming` says more, about events with a
vector to search with.
-/

namespace PersonTracking.Analytics

open Library Python Shared Domain

/-- Whose vector a transaction has indexed, and for whom it has collected a tracking row. -/
structure Progress where
  indexed : Option Uuid
  logged : Option Uuid
deriving DecidableEq, Repr

namespace Progress

/-- Nothing indexed and nothing collected. -/
def nothing : Progress where
  indexed := none
  logged := none

/-- What an answered call makes of it. -/
def next (progress : Progress) : (request : Call) → Reply request → Progress
  | .openSession, _ | .rollback, _ => nothing
  | .qdrant (.upsert _ owner _), .ok () => { progress with indexed := some owner }
  | .addTrackingEvent event, _ => { progress with logged := event.personId }
  | .commit, .ok () => nothing
  | _, _ => progress

/-- What a transaction may call. -/
def Allows (progress : Progress) : Call → Prop
  | .openSession => progress.indexed = none
  | .qdrant (.upsert _ owner point) =>
      progress.indexed = none ∧ point.id = .str owner.toText ∧
        ∃ fields, point.payload = .obj fields
  | .qdrant (.delete _ _) => False
  | .commit => ∀ person, progress.indexed = some person → progress.logged = some person
  | _ => True

/-- What a call makes of the vector does not depend on the rows. -/
theorem indexed_next (progress : Progress) (request : Call) (reply : Reply request) :
    (Progress.next ⟨progress.indexed, none⟩ request reply).indexed =
      (progress.next request reply).indexed := by
  unfold next
  split <;> rfl

end Progress

/-- The calculus of a transaction. -/
def indexing : Program.Rules Call Reply Progress where
  allowed progress request := progress.Allows request
  admits _ _ _ := True
  after progress request answer := progress.next request answer

section Specifications

variable {progress : Progress} {detection : Detection} {embedding payload : Json}

/-- An exception may leave the transaction anywhere, until it is rolled back. -/
abbrev anyProgress (_ : PyError) (_ : Progress) : Prop := True

theorem evaluate_indexes {α : Type} {value : Except PyError α} {post : α → Progress → Prop}
    (reached : ∀ result, value = .ok result → post result progress) :
    Fallible.wpe indexing post anyProgress (evaluate value) progress := by
  rw [evaluate, Fallible.wpe_attempt, Program.pure_eq, Program.wp_done]
  cases value with
  | error error => trivial
  | ok result => exact reached result rfl

/-- The check of the collection indexes nothing. -/
theorem checks_index_nothing (progress : Progress) (request : QdrantCall)
    (checks : QdrantVectorStore.Checks request) :
    (indexing.within Call.qdrant).allowed progress request ∧
      ∀ answer, (indexing.within Call.qdrant).after progress request answer = progress := by
  cases request with
  | collectionChecked | markCollectionChecked | getCollections | createCollection _ =>
      exact ⟨trivial, fun _ => rfl⟩
  | upsert _ _ _ | queryPoints _ _ _ _ | delete _ _ => cases checks

/-- Neither does a search. -/
theorem findPerson_indexes :
    Fallible.wpe indexing (fun _ later => later = progress) anyProgress
      (findPerson embedding) progress := by
  rw [findPerson, Fallible.wpe_bind]
  refine evaluate_indexes fun searches _ => ?_
  cases searches with
  | false => exact rfl
  | true =>
      rw [if_pos rfl, Fallible.wpe_bind, vectorStore, Fallible.wpe_relabel,
        QdrantVectorStore.searchSimilar, Fallible.wpe_bind]
      refine QdrantVectorStore.ensureCollection_spec (checks_index_nothing progress) ?_
        fun _ => trivial
      rw [Fallible.wpe_tryCatch, QdrantVectorStore.query, Fallible.wpe_bind, Fallible.wpe_attempt]
      refine ⟨trivial, fun answer _ => ?_⟩
      cases answer with
      | error error => exact rfl
      | ok results =>
          show Fallible.wpe (indexing.within Call.qdrant) _ _
            (Fallible.attempt (pure (QdrantVectorStore.readMatches results))) progress
          rw [Fallible.wpe_attempt, Program.pure_eq, Program.wp_done]
          generalize QdrantVectorStore.readMatches results = read
          cases read with
          | error error => exact rfl
          | ok found => exact rfl

/-- Saving a person row touches neither. -/
theorem upsertPerson_indexes {person : Person} :
    Fallible.wpe indexing (fun _ later => later = progress) anyProgress
      (upsertPerson person) progress := by
  rw [upsertPerson, Fallible.wpe_bind, Fallible.wpe_attempt]
  refine ⟨trivial, fun answer _ => ?_⟩
  cases answer with
  | error error => trivial
  | ok row =>
      cases row with
      | none => exact ⟨trivial, fun _ _ => rfl⟩
      | some old => exact ⟨trivial, fun _ _ => rfl⟩

theorem updateMatched_indexes {id : Uuid} {timestamp : DateTime} :
    Fallible.wpe indexing (fun _ later => later = progress) anyProgress
      (updateMatched id timestamp) progress := by
  rw [updateMatched, Fallible.wpe_bind, getById, Fallible.wpe_attempt]
  refine ⟨trivial, fun answer _ => ?_⟩
  cases answer with
  | error error => trivial
  | ok row =>
      cases row with
      | none => exact upsertPerson_indexes
      | some old =>
          show Fallible.wpe _ _ _ (evaluate (old.updateAppearance timestamp) >>= _) _
          rw [Fallible.wpe_bind]
          exact evaluate_indexes fun updated _ => upsertPerson_indexes

/-- **A new identity** is the only one whose vector is indexed, if any is. -/
theorem createPerson_indexes {timestamp : DateTime} (unindexed : progress.indexed = none) :
    Fallible.wpe indexing
      (fun person later => ∀ other, later.indexed = some other → other = person) anyProgress
      (createPerson embedding timestamp) progress := by
  have nobody : ∀ (person other : Uuid), progress.indexed = some other → other = person := by
    intro person other wrong
    rw [unindexed] at wrong
    cases wrong
  rw [createPerson, Fallible.wpe_bind, Fallible.wpe_lift]
  refine ⟨trivial, fun person _ => ?_⟩
  rw [Program.wp_done, Fallible.wpe_bind]
  refine Fallible.wpe_mono (fun _ later same => ?_) (fun _ _ raised => raised)
    upsertPerson_indexes
  subst same
  rw [Fallible.wpe_bind, indexEmbedding, Fallible.wpe_bind]
  refine evaluate_indexes fun indexes _ => ?_
  cases indexes with
  | false => exact nobody person
  | true =>
      rw [if_pos rfl, vectorStore, Fallible.wpe_relabel, QdrantVectorStore.upsertEmbedding,
        Fallible.wpe_bind]
      refine QdrantVectorStore.ensureCollection_spec (checks_index_nothing _) ?_ fun _ => trivial
      rw [Fallible.wpe_attempt]
      refine ⟨⟨unindexed, rfl, _, rfl⟩, fun answer _ => ?_⟩
      cases answer with
      | error error => trivial
      | ok _ =>
          rintro other ⟨⟩
          rfl

/-- The tracking row is that of the person. -/
theorem saveEvent_indexes {person : Uuid}
    (own : ∀ other, progress.indexed = some other → other = person) :
    Fallible.wpe indexing
      (fun _ later => ∀ other, later.indexed = some other → later.logged = some other) anyProgress
      (saveEvent person detection) progress := by
  rw [saveEvent, Fallible.wpe_bind, Fallible.wpe_lift]
  refine ⟨trivial, fun event _ => ?_⟩
  rw [Program.wp_done, Fallible.wpe_lift]
  refine ⟨trivial, fun _ _ other indexed => ?_⟩
  rw [own other indexed]
  rfl

theorem handlePersonDetection_indexes (unindexed : progress.indexed = none) :
    Fallible.wpe indexing
      (fun _ later => ∀ person, later.indexed = some person → later.logged = some person)
      anyProgress (handlePersonDetection detection embedding) progress := by
  rw [handlePersonDetection, Fallible.wpe_bind]
  refine Fallible.wpe_mono (fun found later same => ?_) (fun _ _ raised => raised)
    findPerson_indexes
  subst same
  cases found with
  | some person =>
      show Fallible.wpe _ _ _ (updateMatched person detection.timestamp >>= _) _
      rw [Fallible.wpe_bind]
      refine Fallible.wpe_mono (fun _ later same => ?_) (fun _ _ raised => raised)
        updateMatched_indexes
      subst same
      refine saveEvent_indexes fun other wrong => ?_
      rw [unindexed] at wrong
      cases wrong
  | none =>
      show Fallible.wpe _ _ _ (createPerson embedding detection.timestamp >>= _) _
      rw [Fallible.wpe_bind]
      exact Fallible.wpe_mono (fun person later own => saveEvent_indexes own)
        (fun _ _ raised => raised) (createPerson_indexes unindexed)

/-- Alerts know nothing of vectors and rows. -/
theorem handleFireDetection_indexes :
    Fallible.wpe indexing (fun _ later => later = progress) anyProgress
      (handleFireDetection detection) progress := by
  rw [handleFireDetection, Fallible.wpe_bind, Fallible.wpe_lift]
  refine ⟨trivial, fun alertId _ => ?_⟩
  rw [Program.wp_done, Fallible.wpe_bind]
  refine evaluate_indexes fun confidence _ => ?_
  rw [sendEvent, Fallible.wpe_tryCatch, Fallible.wpe_bind, Fallible.wpe_attempt]
  refine ⟨trivial, fun dumped _ => ?_⟩
  cases dumped with
  | error error => exact rfl
  | ok value =>
      show Fallible.wpe _ _ _ (Fallible.attempt _ >>= _) _
      rw [Fallible.wpe_bind, Fallible.wpe_attempt]
      refine ⟨trivial, fun produced _ => ?_⟩
      cases produced with
      | error error => exact rfl
      | ok value =>
          refine ⟨trivial, fun polled _ => ?_⟩
          cases polled with
          | error error => exact rfl
          | ok value => exact rfl

theorem execute_indexes (unindexed : progress.indexed = none) :
    Fallible.wpe indexing
      (fun _ later => ∀ person, later.indexed = some person → later.logged = some person)
      anyProgress (execute payload) progress := by
  have nobody : ∀ person, progress.indexed = some person → progress.logged = some person := by
    intro person wrong
    rw [unindexed] at wrong
    cases wrong
  rw [execute, Fallible.wpe_bind]
  refine evaluate_indexes fun detection _ => ?_
  rw [handleDetection]
  split
  · exact Fallible.wpe_mono (fun _ later same => same ▸ nobody) (fun _ _ raised => raised)
      handleFireDetection_indexes
  · rw [Fallible.wpe_bind]
    exact evaluate_indexes fun embedding _ => handlePersonDetection_indexes unindexed
  · exact nobody

/-- **Every transaction keeps to it**: whatever the event and the answers, a session that
is committed has a tracking row of whoever is indexed, and every other one is rolled back. -/
theorem processMessageCallback_indexes (payload : Json) (unindexed : progress.indexed = none) :
    Program.wp indexing (fun _ later => later.indexed = none)
      (processMessageCallback payload).run progress := by
  have rescued : ∀ error (later : Progress), Fallible.wpe indexing
      (fun _ later => later.indexed = none) (fun _ later => later.indexed = none)
      (do
        Fallible.attempt (ask .rollback)
        throw error : Service Unit) later := by
    intro error later
    exact Fallible.wpe_rethrow ⟨trivial, fun _ _ _ => rfl⟩
  have whole : Fallible.wpe indexing (fun _ later => later.indexed = none)
      (fun _ later => later.indexed = none) (processMessageCallback payload) progress := by
    rw [processMessageCallback, Fallible.wpe_bind, Fallible.wpe_lift]
    refine ⟨unindexed, fun _ _ => ?_⟩
    rw [Program.wp_done, Fallible.wpe_tryCatch, executeAndCommit, Fallible.wpe_bind]
    refine Fallible.wpe_mono (fun _ later logged => ?_) (fun error later _ => rescued error later)
      (execute_indexes rfl)
    rw [Fallible.wpe_attempt]
    refine ⟨logged, fun committed _ => ?_⟩
    cases committed with
    | error error => exact rescued error later
    | ok value => exact rfl
  refine Program.wp_mono (fun result later ended => ?_) whole
  cases result with
  | ok value => exact ended
  | error error => exact ended

end Specifications

end PersonTracking.Analytics
