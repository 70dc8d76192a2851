import PersonTracking.Analytics.Stores

/-!
# What a transaction has read and written when it commits

The callback keeps to one discipline whatever the stores answer: what it
collects in its session is nothing, or the sighting of one person, saved the
way `upsert_person` read its row, as an update of the row `get_by_id` has read
or as a first sighting.

A `Draft` is that knowledge, `drafting` the calculus that carries it, and
`processMessageCallback_drafts` the result.  Nothing here depends on what else
happens to the tables in between, so it serves one consumer as well as many.
-/

namespace PersonTracking.Analytics

open Library Python Shared Domain

/-- A person as both the fallback and the new identity start. -/
abbrev firstSighting (id : Uuid) (timestamp : DateTime) : Person :=
  { id, firstSeen := timestamp, lastSeen := timestamp }

/-- What a transaction has read at either site, what it has collected, and
whether it is committed. -/
structure Draft where
  matched : Option (Uuid × Option Person)
  saved : Option (Uuid × Option Person)
  session : List Write
  committed : Bool

namespace Draft

/-- A new session. -/
def empty : Draft where
  matched := none
  saved := none
  session := []
  committed := false

/-- One more write. -/
def collect (draft : Draft) (write : Write) : Draft :=
  { draft with session := draft.session ++ [write] }

/-- The person to be saved is the counted row that `get_by_id` has read, or a
first sighting of an id it has not found. -/
def Prepares (draft : Draft) (timestamp : DateTime) (person : Person) : Prop :=
  (∃ old, draft.matched = some (person.id, some old) ∧
      old.updateAppearance timestamp = .ok person) ∨
    (person = firstSighting person.id timestamp ∧
      (draft.matched = none ∨ draft.matched = some (person.id, none)))

/-- The person is saved the way its row was read. -/
structure Saves (draft : Draft) (timestamp : DateTime) (person : Person) : Prop where
  uncommitted : draft.committed = false
  prepared : draft.Prepares timestamp person
  written : ∃ row, draft.saved = some (person.id, row) ∧
    draft.session = [Database.personWrite row person]

/-- The session holds the sighting of a person. -/
structure Sights (draft : Draft) (timestamp : DateTime) (person : Person) (event : TrackingEvent) :
    Prop where
  prepared : draft.Prepares timestamp person
  written : ∃ row, draft.saved = some (person.id, row) ∧
    draft.session = [Database.personWrite row person, .insertEvent event]
  attributed : event.personId = some person.id
  timed : event.timestamp = timestamp

/-- A session a transaction may commit. -/
def Complete (payload : Json) (draft : Draft) : Prop :=
  draft.session = [] ∨
    ∃ detection person event, readEvent payload = .ok detection ∧ detection.kind = .person ∧
      draft.Sights detection.timestamp person event

/-- What an answered call adds to the draft. -/
def next (draft : Draft) : (request : Call) → Reply request → Draft
  | .openSession, _ => empty
  | .selectPerson .getById id, .ok row => { draft with matched := some (id, row) }
  | .selectPerson .upsertPerson id, .ok row => { draft with saved := some (id, row) }
  | .addPerson person, _ => draft.collect (.insertPerson person)
  | .updatePerson person, _ => draft.collect (.updatePerson person)
  | .addTrackingEvent event, _ => draft.collect (.insertEvent event)
  | .commit, .ok () => { empty with committed := true }
  | .rollback, _ => empty
  | _, _ => draft

end Draft

/-- A row that is read is that of the person asked for. -/
def Keyed : (request : Call) → Reply request → Prop
  | .selectPerson _ id, .ok row => ∀ person, row = some person → person.id = id
  | _, _ => True

/-- The calculus of a transaction: complete sessions are committed, and nothing
follows a commit that succeeds. -/
def drafting (payload : Json) : Program.Rules Call Reply Draft where
  allowed draft request :=
    draft.committed = false ∧
      match request with
      | .commit => draft.Complete payload
      | _ => True
  admits _ request answer := Keyed request answer
  after draft request answer := draft.next request answer

section Specifications

variable {payload : Json} {detection : Detection} {draft : Draft} {embedding : Json}

/-- An exception leaves the transaction open. -/
abbrev stillOpen (_ : PyError) (draft : Draft) : Prop := draft.committed = false

/-- The vector store knows nothing of the session. -/
theorem vectorStore_spec {α : Type} {operation : Store α} {post : α → Draft → Prop}
    (uncommitted : draft.committed = false) (reached : ∀ value, post value draft) :
    Fallible.wpe (drafting payload) post stillOpen (vectorStore operation) draft := by
  have still : ∀ request, ((drafting payload).within Call.qdrant).allowed draft request ∧
      ∀ answer, ((drafting payload).within Call.qdrant).after draft request answer = draft :=
    fun request => ⟨⟨uncommitted, trivial⟩, fun _ => rfl⟩
  rw [vectorStore, Fallible.wpe_relabel]
  refine Program.wp_of_still still ?_ _
  intro result
  cases result with
  | error error => exact uncommitted
  | ok value => exact reached value

theorem evaluate_spec {α : Type} {value : Except PyError α} {post : α → Draft → Prop}
    (uncommitted : draft.committed = false) (reached : ∀ result, value = .ok result →
      post result draft) :
    Fallible.wpe (drafting payload) post stillOpen (evaluate value) draft := by
  rw [evaluate, Fallible.wpe_attempt, Program.pure_eq, Program.wp_done]
  cases value with
  | error error => exact uncommitted
  | ok result => exact reached result rfl

theorem uuid4_spec {post : Uuid → Draft → Prop} (uncommitted : draft.committed = false)
    (reached : ∀ id, post id draft) :
    Fallible.wpe (drafting payload) post stillOpen (Fallible.lift (ask .uuid4)) draft := by
  rw [Fallible.wpe_lift]
  exact ⟨⟨uncommitted, trivial⟩, fun id _ => reached id⟩

theorem findPerson_spec (uncommitted : draft.committed = false) :
    Fallible.wpe (drafting payload) (fun _ later => later = draft) stillOpen
      (findPerson embedding) draft := by
  rw [findPerson, Fallible.wpe_bind]
  refine evaluate_spec uncommitted fun searches _ => ?_
  cases searches with
  | false => exact rfl
  | true =>
      rw [if_pos rfl, Fallible.wpe_bind]
      exact vectorStore_spec uncommitted fun _ => rfl

/-- `upsert_person` saves a prepared person. -/
theorem upsertPerson_spec {timestamp : DateTime} {person : Person}
    (uncommitted : draft.committed = false) (blank : draft.session = [])
    (prepared : draft.Prepares timestamp person) :
    Fallible.wpe (drafting payload) (fun _ later => later.Saves timestamp person) stillOpen
      (upsertPerson person) draft := by
  rw [upsertPerson, Fallible.wpe_bind, Fallible.wpe_attempt]
  refine ⟨⟨uncommitted, trivial⟩, fun answer _ => ?_⟩
  cases answer with
  | error error => exact uncommitted
  | ok row =>
      cases row with
      | none =>
          exact ⟨⟨uncommitted, trivial⟩, fun _ _ => ⟨uncommitted, prepared, none, rfl, by
            show draft.session ++ _ = _
            rw [blank]
            rfl⟩⟩
      | some old =>
          exact ⟨⟨uncommitted, trivial⟩, fun _ _ => ⟨uncommitted, prepared, some old, rfl, by
            show draft.session ++ _ = _
            rw [blank]
            rfl⟩⟩

/-- A matched id is counted, or starts over where its row is missing. -/
theorem updateMatched_spec {id : Uuid} {timestamp : DateTime}
    (uncommitted : draft.committed = false) (blank : draft.session = []) :
    Fallible.wpe (drafting payload)
      (fun _ later => ∃ person, person.id = id ∧ later.Saves timestamp person) stillOpen
      (updateMatched id timestamp) draft := by
  rw [updateMatched, Fallible.wpe_bind, getById, Fallible.wpe_attempt]
  refine ⟨⟨uncommitted, trivial⟩, fun answer keyed => ?_⟩
  cases answer with
  | error error => exact uncommitted
  | ok row =>
      cases row with
      | none =>
          show Fallible.wpe _ _ _ (upsertPerson (firstSighting id timestamp))
            { draft with matched := some (id, none) }
          refine Fallible.wpe_mono (fun _ later saves => ?_) (fun _ _ raised => raised)
            (upsertPerson_spec uncommitted blank (Or.inr ⟨rfl, Or.inr rfl⟩))
          exact ⟨firstSighting id timestamp, rfl, saves⟩
      | some old =>
          show Fallible.wpe _ _ _ (evaluate (old.updateAppearance timestamp) >>= _)
            { draft with matched := some (id, some old) }
          rw [Fallible.wpe_bind]
          refine evaluate_spec uncommitted fun person counted => ?_
          have same : person.id = id := by
            obtain ⟨_, _, -, -, rfl⟩ := Person.updateAppearance_eq_ok counted
            exact keyed old rfl
          subst same
          refine Fallible.wpe_mono (fun _ later saves => ⟨person, rfl, saves⟩)
            (fun _ _ raised => raised)
            (upsertPerson_spec uncommitted blank (Or.inl ⟨old, rfl, counted⟩))

/-- A new identity is a first sighting. -/
theorem createPerson_spec {timestamp : DateTime} (uncommitted : draft.committed = false)
    (blank : draft.session = []) (unmatched : draft.matched = none) :
    Fallible.wpe (drafting payload)
      (fun id later => ∃ person, person.id = id ∧ later.Saves timestamp person) stillOpen
      (createPerson embedding timestamp) draft := by
  rw [createPerson, Fallible.wpe_bind]
  refine uuid4_spec uncommitted fun id => ?_
  rw [Fallible.wpe_bind]
  refine Fallible.wpe_mono (fun _ later saves => ?_) (fun _ _ raised => raised)
    (upsertPerson_spec uncommitted blank (Or.inr ⟨rfl, Or.inl unmatched⟩))
  have done : ∃ person : Person, person.id = id ∧ later.Saves timestamp person :=
    ⟨firstSighting id timestamp, rfl, saves⟩
  rw [Fallible.wpe_bind, indexEmbedding, Fallible.wpe_bind]
  refine evaluate_spec saves.uncommitted fun indexes _ => ?_
  cases indexes with
  | false => exact done
  | true => exact vectorStore_spec saves.uncommitted fun _ => done

/-- The tracking row completes the session. -/
theorem saveEvent_spec {person : Person} (read : readEvent payload = .ok detection)
    (kind : detection.kind = .person) (saves : draft.Saves detection.timestamp person) :
    Fallible.wpe (drafting payload)
      (fun _ later => later.committed = false ∧ later.Complete payload) stillOpen
      (saveEvent person.id detection) draft := by
  rw [saveEvent, Fallible.wpe_bind]
  refine uuid4_spec saves.uncommitted fun eventId => ?_
  rw [Fallible.wpe_lift]
  refine ⟨⟨saves.uncommitted, trivial⟩, fun _ _ => ⟨saves.uncommitted, Or.inr ?_⟩⟩
  obtain ⟨row, reads, written⟩ := saves.written
  refine ⟨detection, person, detection.trackingEvent eventId person.id, read, kind, ?_⟩
  exact ⟨saves.prepared, ⟨row, reads, by rw [← List.singleton_append, ← written]; rfl⟩, rfl, rfl⟩

/-- A person event completes a session with the sighting of one person. -/
theorem handlePersonDetection_spec (read : readEvent payload = .ok detection)
    (kind : detection.kind = .person) :
    Fallible.wpe (drafting payload)
      (fun _ later => later.committed = false ∧ later.Complete payload) stillOpen
      (handlePersonDetection detection embedding) .empty := by
  rw [handlePersonDetection, Fallible.wpe_bind]
  refine Fallible.wpe_mono (fun found later same => ?_) (fun _ _ raised => raised)
    (findPerson_spec rfl)
  subst same
  cases found with
  | some id =>
      show Fallible.wpe _ _ _ (updateMatched id detection.timestamp >>= _) _
      rw [Fallible.wpe_bind]
      refine Fallible.wpe_mono (fun _ later saved => ?_) (fun _ _ raised => raised)
        (updateMatched_spec rfl rfl)
      obtain ⟨person, rfl, saves⟩ := saved
      exact saveEvent_spec read kind saves
  | none =>
      show Fallible.wpe _ _ _ (createPerson embedding detection.timestamp >>= _) _
      rw [Fallible.wpe_bind]
      refine Fallible.wpe_mono (fun id later saved => ?_) (fun _ _ raised => raised)
        (createPerson_spec rfl rfl rfl)
      obtain ⟨person, rfl, saves⟩ := saved
      exact saveEvent_spec read kind saves

/-- Alerts know nothing of the session. -/
theorem handleFireDetection_drafts {post : Unit → Draft → Prop}
    (uncommitted : draft.committed = false) (reached : post () draft) :
    Fallible.wpe (drafting payload) post stillOpen (handleFireDetection detection) draft := by
  rw [handleFireDetection, Fallible.wpe_bind]
  refine uuid4_spec uncommitted fun alertId => ?_
  rw [Fallible.wpe_bind]
  refine evaluate_spec uncommitted fun confidence _ => ?_
  rw [sendEvent, Fallible.wpe_tryCatch, Fallible.wpe_bind, Fallible.wpe_attempt]
  refine ⟨⟨uncommitted, trivial⟩, fun dumped _ => ?_⟩
  cases dumped with
  | error error => exact reached
  | ok value =>
      show Fallible.wpe _ _ _ (Fallible.attempt _ >>= _) draft
      rw [Fallible.wpe_bind, Fallible.wpe_attempt]
      refine ⟨⟨uncommitted, trivial⟩, fun produced _ => ?_⟩
      cases produced with
      | error error => exact reached
      | ok value =>
          refine ⟨⟨uncommitted, trivial⟩, fun polled _ => ?_⟩
          cases polled with
          | error error => exact reached
          | ok value => exact reached

theorem execute_drafts :
    Fallible.wpe (drafting payload)
      (fun _ later => later.committed = false ∧ later.Complete payload) stillOpen
      (execute payload) .empty := by
  rw [execute, Fallible.wpe_bind]
  refine evaluate_spec rfl fun detection read => ?_
  rw [handleDetection]
  split
  · exact handleFireDetection_drafts rfl ⟨rfl, Or.inl rfl⟩
  · rename_i kind
    rw [Fallible.wpe_bind]
    exact evaluate_spec rfl fun embedding _ => handlePersonDetection_spec read kind
  · exact ⟨rfl, Or.inl rfl⟩

/-- **Every transaction keeps to the discipline**: it commits a complete session
once and returns, or it raises uncommitted. -/
theorem processMessageCallback_drafts (uncommitted : draft.committed = false) :
    Fallible.wpe (drafting payload) (fun _ later => later.committed = true) stillOpen
      (processMessageCallback payload) draft := by
  rw [processMessageCallback, Fallible.wpe_bind, Fallible.wpe_lift]
  refine ⟨⟨uncommitted, trivial⟩, fun _ _ => ?_⟩
  rw [Program.wp_done, Fallible.wpe_tryCatch, executeAndCommit, Fallible.wpe_bind]
  have rescued : ∀ error (later : Draft), later.committed = false →
      Fallible.wpe (drafting payload) (fun _ later => later.committed = true) stillOpen
        (do
          Fallible.attempt (ask .rollback)
          throw error : Service Unit) later := by
    intro error later still
    exact Fallible.wpe_rethrow ⟨⟨still, trivial⟩, fun _ _ _ => rfl⟩
  refine Fallible.wpe_mono (fun _ later complete => ?_) rescued execute_drafts
  rw [Fallible.wpe_attempt]
  refine ⟨complete, fun committed _ => ?_⟩
  cases committed with
  | error error => exact rescued error later complete.1
  | ok value => exact rfl

end Specifications

end PersonTracking.Analytics
