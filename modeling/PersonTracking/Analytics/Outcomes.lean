import PersonTracking.Analytics.Drafts

/-!
# What one person event does to the stores

The outcome of each part of `_handle_person_detection` against a `World`, for
every way in which calls may fail: what is returned or raised, and what the
stores and the session hold afterwards.  The results for the whole event say
this for each of its branches — no vector search, a search that raises, a
match, no match.
-/

namespace PersonTracking.Analytics

open Library Python Shared Domain

variable {faults : Program.Faults Call} {engine : Engine} {world : World} {detection : Detection}
  {embedding : Json}

/-- How the calls to Qdrant fail. -/
abbrev qdrantFaults (faults : Program.Faults Call) : Program.Faults QdrantCall :=
  faults.within Call.qdrant

/-- The write that saves a person collected. -/
def World.saving (world : World) (person : Person) : World :=
  world.collect (Database.personWrite (world.database.persons person.id) person)

/-! ## The parts -/

theorem exec_vectorStore {α : Type} (operation : Store α) :
    Fallible.exec (World.handler faults engine) (vectorStore operation) world =
      ((Fallible.exec (Qdrant.handler (qdrantFaults faults) engine) operation world.qdrant).1,
        world.setQdrant
          (Fallible.exec (Qdrant.handler (qdrantFaults faults) engine) operation
            world.qdrant).2) := by
  rw [vectorStore, Fallible.exec_relabel]
  exact Program.run_focus World.qdrant World.setQdrant
    (Qdrant.handler (qdrantFaults faults) engine) (fun _ _ => rfl) (fun _ _ _ => rfl)
    (fun _ => rfl) operation.run world

theorem exec_uuid4 :
    Fallible.exec (World.handler faults engine) (Fallible.lift (ask .uuid4) : Service Uuid) world =
      (.ok (world.entropy 0), world.minted) := rfl

/-- `upsert_person` reads the row again; without an exception there it collects one write. -/
theorem exec_upsertPerson (person : Person) :
    Fallible.exec (World.handler faults engine) (upsertPerson person) world =
      if faults.raises (.selectPerson .upsertPerson person.id) then (.error .sqlError, world)
      else (.ok (), world.saving person) := by
  have selected : Fallible.exec (World.handler faults engine)
      (Fallible.attempt (ask (.selectPerson .upsertPerson person.id))) world =
        if faults.raises (.selectPerson .upsertPerson person.id) then (.error .sqlError, world)
        else (.ok (world.database.persons person.id), world) := rfl
  rw [upsertPerson]
  split at selected
  · rename_i failed
    rw [Fallible.exec_bind_error selected, if_pos failed]
  · rename_i read
    rw [Fallible.exec_bind_ok selected, if_neg read, World.saving]
    cases world.database.persons person.id <;> rfl

/-- Saving the tracking row only collects it. -/
theorem exec_saveEvent (id : Uuid) :
    Fallible.exec (World.handler faults engine) (saveEvent id detection) world =
      (.ok (), world.minted.collect
        (.insertEvent (detection.trackingEvent (world.entropy 0) id))) := rfl

theorem exec_findPerson (reid : isReidVector embedding = .ok true) :
    Fallible.exec (World.handler faults engine) (findPerson embedding) world =
      match Qdrant.ensured (qdrantFaults faults) world.qdrant with
      | some after =>
          (.ok ((Qdrant.answered (qdrantFaults faults) engine after embedding 1
            matchThreshold).head?.map QdrantVectorStore.Match.personId), world.setQdrant after)
      | none => (.error .qdrantError,
          world.setQdrant (Qdrant.halted (qdrantFaults faults) world.qdrant)) := by
  have searches : Fallible.exec (World.handler faults engine)
      (evaluate (isReidVector embedding)) world = (.ok true, world) := by
    rw [reid]
    rfl
  rw [findPerson, Fallible.exec_bind_ok searches, if_pos rfl, Fallible.exec_bind, exec_vectorStore,
    Qdrant.exec_searchSimilar]
  cases Qdrant.ensured (qdrantFaults faults) world.qdrant <;> rfl

/-- Updating an appearance keeps the identity. -/
theorem id_updateAppearance {person updated : Person} {timestamp : DateTime}
    (counted : person.updateAppearance timestamp = .ok updated) : updated.id = person.id := by
  obtain ⟨_, _, -, -, rfl⟩ := Person.updateAppearance_eq_ok counted
  rfl

/-- The outcome of a part that saves a person under an id: it raises and leaves
everything, or it collects one write. -/
def SavesPerson (faults : Program.Faults Call) (engine : Engine) (world : World) (id : Uuid)
    (part : Service Unit) : Prop :=
  (∃ error, Fallible.exec (World.handler faults engine) part world = (.error error, world)) ∨
    ∃ person : Person, person.id = id ∧
      Fallible.exec (World.handler faults engine) part world =
        (.ok (), world.saving person)

theorem savesPerson_upsertPerson {person : Person} {id : Uuid} (same : person.id = id) :
    SavesPerson faults engine world id (upsertPerson person) := by
  subst same
  rw [SavesPerson, exec_upsertPerson]
  split
  · exact Or.inl ⟨_, rfl⟩
  · exact Or.inr ⟨person, rfl, rfl⟩

theorem savesPerson_countAppearance (id : Uuid) (timestamp : DateTime) {row : Option Person}
    (keyed : ∀ person, row = some person → person.id = id) :
    SavesPerson faults engine world id (countAppearance id timestamp row) := by
  cases row with
  | none => exact savesPerson_upsertPerson rfl
  | some person =>
      cases counted : person.updateAppearance timestamp with
      | error error =>
          refine Or.inl ⟨error, ?_⟩
          rw [countAppearance, counted]
          rfl
      | ok updated =>
          have counts : Fallible.exec (World.handler faults engine)
              (evaluate (person.updateAppearance timestamp)) world = (.ok updated, world) := by
            rw [counted]
            rfl
          rw [SavesPerson, countAppearance, Fallible.exec_bind_ok counts]
          exact savesPerson_upsertPerson ((id_updateAppearance counted).trans (keyed person rfl))

/-- A matched id: what is saved in the end has that id. -/
theorem savesPerson_updateMatched (id : Uuid) (timestamp : DateTime) :
    SavesPerson faults engine world id (updateMatched id timestamp) := by
  have selected : Fallible.exec (World.handler faults engine) (getById id) world =
      if faults.raises (.selectPerson .getById id) then (.error .sqlError, world)
      else (.ok (world.database.persons id), world) := rfl
  split at selected
  · exact Or.inl ⟨_, Fallible.exec_bind_error selected⟩
  · rw [SavesPerson, updateMatched, Fallible.exec_bind_ok selected]
    exact savesPerson_countAppearance id timestamp (world.database.keyed id)

/-- The point under which a new identity is indexed. -/
abbrev vectorPoint (id : Uuid) (embedding : Json) (timestamp : DateTime) : PointStruct :=
  ⟨.str id.toText, embedding, vectorMetadata timestamp⟩

/-- Indexing after the collection was checked writes the point, or raises before or
after it is written. -/
theorem exec_indexEmbedding (reid : isReidVector embedding = .ok true)
    (checked : world.qdrant.checked = true) (id : Uuid) (timestamp : DateTime) :
    Fallible.exec (World.handler faults engine) (indexEmbedding id embedding timestamp) world =
      if faults.raises (.qdrant (.upsert QdrantVectorStore.collectionName id
        (vectorPoint id embedding timestamp))) then
        (.error .qdrantError, world.setQdrant (Qdrant.putUnheard (qdrantFaults faults) world.qdrant
          id (vectorPoint id embedding timestamp)))
      else if present : world.qdrant.Present then
        (.ok (), world.setQdrant
          (world.qdrant.put present id (vectorPoint id embedding timestamp)))
      else (.error .qdrantError, world) := by
  have indexes : Fallible.exec (World.handler faults engine)
      (evaluate (isReidVector embedding)) world = (.ok true, world) := by
    rw [reid]
    rfl
  rw [indexEmbedding, Fallible.exec_bind_ok indexes, if_pos rfl, exec_vectorStore,
    Qdrant.exec_upsertEmbedding, Qdrant.ensured_of_checked checked]
  dsimp only
  by_cases raised : faults.raises (.qdrant (.upsert QdrantVectorStore.collectionName id
    (vectorPoint id embedding timestamp))) = true
  · have there : (qdrantFaults faults).raises (.upsert QdrantVectorStore.collectionName id
        (vectorPoint id embedding timestamp)) = true := raised
    rw [if_pos raised, Program.Faults.carryOut_of_raises there, Qdrant.putUnheard]
    dsimp only
    split <;> split <;> rfl
  · have there : ¬ (qdrantFaults faults).raises (.upsert QdrantVectorStore.collectionName id
        (vectorPoint id embedding timestamp)) = true := raised
    rw [if_neg raised, Program.Faults.carryOut_of_quiet there]
    split <;> rfl

/-- Nothing else is indexed. -/
theorem exec_indexEmbedding_plain (plain : isReidVector embedding = .ok false) (id : Uuid)
    (timestamp : DateTime) :
    Fallible.exec (World.handler faults engine) (indexEmbedding id embedding timestamp) world =
      (.ok (), world) := by
  rw [indexEmbedding, plain]
  rfl

/-! ## The event -/

/-- A world in which an event has left nothing but a checked collection. -/
structure Kept (world : World) (qdrant : Qdrant) (after : World) : Prop where
  database : after.database = world.database
  qdrant : after.qdrant = qdrant

/-- …and one in whose session it has collected the rows of a person's sighting,
the tracking row under the UUID minted as the `n`-th. -/
structure Sighting (detection : Detection) (world : World) (qdrant : Qdrant) (person : Person)
    (n : ℕ) (after : World) : Prop extends Kept world qdrant after where
  session : after.session = world.session ++
    [Database.personWrite (world.database.persons person.id) person,
      .insertEvent (detection.trackingEvent (world.entropy n) person.id)]

/-- An embedding that has no length. -/
theorem exec_handlePersonDetection_unsized {error : PyError}
    (unsized : isReidVector embedding = .error error) :
    Fallible.exec (World.handler faults engine) (handlePersonDetection detection embedding) world =
      (.error error, world) := by
  rw [handlePersonDetection, findPerson, unsized]
  rfl

/-- A collection that cannot be checked. -/
theorem exec_handlePersonDetection_unchecked (reid : isReidVector embedding = .ok true)
    (unchecked : Qdrant.ensured (qdrantFaults faults) world.qdrant = none) :
    Fallible.exec (World.handler faults engine) (handlePersonDetection detection embedding) world =
      (.error .qdrantError,
        world.setQdrant (Qdrant.halted (qdrantFaults faults) world.qdrant)) := by
  rw [handlePersonDetection, Fallible.exec_bind, exec_findPerson reid, unchecked]

section Searched

variable {qdrant : Qdrant}

/-- **A match**: the sighting is that of the matched person. -/
theorem exec_handlePersonDetection_matched {first : QdrantVectorStore.Match}
    {others : List QdrantVectorStore.Match} (reid : isReidVector embedding = .ok true)
    (checked : Qdrant.ensured (qdrantFaults faults) world.qdrant = some qdrant)
    (found : Qdrant.answered (qdrantFaults faults) engine qdrant embedding 1 matchThreshold =
      first :: others) :
    ∃ after,
      ((∃ error, Fallible.exec (World.handler faults engine)
          (handlePersonDetection detection embedding) world = (.error error, after)) ∧
        Kept world qdrant after) ∨
      ∃ person, person.id = first.personId ∧
        Fallible.exec (World.handler faults engine)
          (handlePersonDetection detection embedding) world = (.ok (), after) ∧
        Sighting detection world qdrant person 0 after := by
  have searched : Fallible.exec (World.handler faults engine) (findPerson embedding) world =
      (.ok (some first.personId), world.setQdrant qdrant) := by
    rw [exec_findPerson reid, checked]
    dsimp only
    rw [found]
    rfl
  rw [handlePersonDetection, Fallible.exec_bind_ok searched]
  dsimp only
  rcases @savesPerson_updateMatched faults engine (world.setQdrant qdrant) first.personId
    detection.timestamp with ⟨error, raised⟩ | ⟨person, same, saved⟩
  · rw [Fallible.exec_bind_error raised]
    exact ⟨_, Or.inl ⟨⟨error, rfl⟩, rfl, rfl⟩⟩
  · rw [Fallible.exec_bind_ok saved, exec_saveEvent]
    refine ⟨_, Or.inr ⟨person, same, rfl, ⟨rfl, rfl⟩, ?_⟩⟩
    rw [← same]
    exact List.append_assoc world.session _ _

/-- A search that finds nobody. -/
theorem exec_findPerson_unmatched (reid : isReidVector embedding = .ok true)
    (checked : Qdrant.ensured (qdrantFaults faults) world.qdrant = some qdrant)
    (unmatched : Qdrant.answered (qdrantFaults faults) engine qdrant embedding 1 matchThreshold =
      []) :
    Fallible.exec (World.handler faults engine) (findPerson embedding) world =
      (.ok none, world.setQdrant qdrant) := by
  rw [exec_findPerson reid, checked]
  dsimp only
  rw [unmatched]
  rfl

/-- No search without a vector to search with. -/
theorem exec_findPerson_plain (plain : isReidVector embedding = .ok false) :
    Fallible.exec (World.handler faults engine) (findPerson embedding) world =
      (.ok none, world.setQdrant world.qdrant) := by
  rw [findPerson, plain]
  rfl

variable (searched : Fallible.exec (World.handler faults engine) (findPerson embedding) world =
  (.ok none, world.setQdrant qdrant))

include searched

/-- Without a match, a failing `upsert_person` ends the event. -/
theorem exec_handlePersonDetection_unread
    (unread : faults.raises (.selectPerson .upsertPerson (world.entropy 0)) = true) :
    Fallible.exec (World.handler faults engine) (handlePersonDetection detection embedding) world =
      (.error .sqlError, (world.setQdrant qdrant).minted) := by
  rw [handlePersonDetection, Fallible.exec_bind_ok searched]
  dsimp only
  rw [Fallible.exec_bind, createPerson, Fallible.exec_bind_ok exec_uuid4, Fallible.exec_bind,
    World.entropy_setQdrant, exec_upsertPerson, if_pos unread]

variable (read : ¬ faults.raises (.selectPerson .upsertPerson (world.entropy 0)) = true)

include read

/-- …and what follows it is indexing the embedding and saving the tracking row. -/
theorem exec_handlePersonDetection_read :
    Fallible.exec (World.handler faults engine) (handlePersonDetection detection embedding) world =
      Fallible.exec (World.handler faults engine)
        (do
          indexEmbedding (world.entropy 0) embedding detection.timestamp
          saveEvent (world.entropy 0) detection)
        ((world.setQdrant qdrant).minted.saving
          (firstSighting (world.entropy 0) detection.timestamp)) := by
  rw [handlePersonDetection, Fallible.exec_bind_ok searched]
  dsimp only
  rw [Fallible.exec_bind, createPerson, Fallible.exec_bind_ok exec_uuid4, Fallible.exec_bind,
    World.entropy_setQdrant, exec_upsertPerson, if_neg read]
  dsimp only
  rw [Fallible.exec_bind, Fallible.exec_bind]
  generalize Fallible.exec (World.handler faults engine) (indexEmbedding _ _ _) _ = outcome
  obtain ⟨result, later⟩ := outcome
  cases result <;> rfl

/-- A new identity without a vector. -/
theorem exec_handlePersonDetection_plain (plain : isReidVector embedding = .ok false) :
    ∃ after, Fallible.exec (World.handler faults engine)
        (handlePersonDetection detection embedding) world = (.ok (), after) ∧
      Sighting detection world qdrant (firstSighting (world.entropy 0) detection.timestamp) 1
        after := by
  rw [exec_handlePersonDetection_read searched read,
    Fallible.exec_bind_ok (exec_indexEmbedding_plain plain _ _), exec_saveEvent]
  exact ⟨_, rfl, ⟨rfl, rfl⟩, List.append_assoc world.session _ _⟩

variable (reid : isReidVector embedding = .ok true) (checked : qdrant.checked = true)

include reid checked

/-- A new identity whose vector is refused, or written by a call that raises. -/
theorem exec_handlePersonDetection_unindexed
    (refused : faults.raises (.qdrant (.upsert QdrantVectorStore.collectionName (world.entropy 0)
      (vectorPoint (world.entropy 0) embedding detection.timestamp))) = true ∨ ¬ qdrant.Present) :
    ∃ after, Fallible.exec (World.handler faults engine)
        (handlePersonDetection detection embedding) world = (.error .qdrantError, after) ∧
      Kept world (Qdrant.putUnheard (qdrantFaults faults) qdrant (world.entropy 0)
        (vectorPoint (world.entropy 0) embedding detection.timestamp)) after := by
  have raised : Fallible.exec (World.handler faults engine)
      (indexEmbedding (world.entropy 0) embedding detection.timestamp)
      ((world.setQdrant qdrant).minted.saving
        (firstSighting (world.entropy 0) detection.timestamp)) =
      (.error .qdrantError, ((world.setQdrant qdrant).minted.saving
        (firstSighting (world.entropy 0) detection.timestamp)).setQdrant
          (Qdrant.putUnheard (qdrantFaults faults) qdrant (world.entropy 0)
            (vectorPoint (world.entropy 0) embedding detection.timestamp))) := by
    rw [exec_indexEmbedding reid checked]
    split
    · rfl
    · rename_i writes
      have absent : ¬ qdrant.Present := refused.resolve_left writes
      rw [Qdrant.putUnheard, dif_neg absent]
      exact dif_neg absent
  rw [exec_handlePersonDetection_read searched read, Fallible.exec_bind_error raised]
  exact ⟨_, rfl, rfl, rfl⟩

/-- A new identity with its vector. -/
theorem exec_handlePersonDetection_indexed
    (writes : ¬ faults.raises (.qdrant (.upsert QdrantVectorStore.collectionName (world.entropy 0)
      (vectorPoint (world.entropy 0) embedding detection.timestamp))) = true)
    (present : qdrant.Present) :
    ∃ after, Fallible.exec (World.handler faults engine)
        (handlePersonDetection detection embedding) world = (.ok (), after) ∧
      Sighting detection world
        (qdrant.put present (world.entropy 0)
          (vectorPoint (world.entropy 0) embedding detection.timestamp))
        (firstSighting (world.entropy 0) detection.timestamp) 1 after := by
  have indexed := @exec_indexEmbedding faults engine
    ((world.setQdrant qdrant).minted.saving (firstSighting (world.entropy 0) detection.timestamp))
    embedding reid checked (world.entropy 0) detection.timestamp
  rw [if_neg writes] at indexed
  rw [exec_handlePersonDetection_read searched read,
    Fallible.exec_bind_ok (indexed.trans (dif_pos present)), exec_saveEvent]
  exact ⟨_, rfl, ⟨rfl, rfl⟩, List.append_assoc world.session _ _⟩

end Searched

/-! ## The transaction -/

/-- The handler of `process_message_callback` always raises and drops the session. -/
theorem exec_rollback (error : PyError) :
    ∃ raised, Fallible.exec (World.handler faults engine)
      (do
        Fallible.attempt (ask .rollback)
        throw error : Service Unit) world = (.error raised, world.cleared) := by
  have rolledBack : Fallible.exec (World.handler faults engine)
      (Fallible.attempt (ask .rollback)) world =
        (if faults.raises .rollback then .error .sqlError else .ok (), world.cleared) := rfl
  split at rolledBack
  · exact ⟨_, Fallible.exec_bind_error rolledBack⟩
  · exact ⟨error, Fallible.exec_bind_ok rolledBack⟩

section Callback

variable {payload : Json} {after : World}

/-- A transaction that raises is rolled back and raises. -/
theorem exec_processMessageCallback_error {error : PyError}
    (raised : Fallible.exec (World.handler faults engine) (executeAndCommit payload)
      world.cleared = (.error error, after)) :
    ∃ error, Fallible.exec (World.handler faults engine) (processMessageCallback payload) world =
      (.error error, after.cleared) := by
  have opened : Fallible.exec (World.handler faults engine)
      (Fallible.lift (ask .openSession) : Service Unit) world = (.ok (), world.cleared) := rfl
  rw [processMessageCallback, Fallible.exec_bind_ok opened, Fallible.exec_tryCatch, raised]
  exact exec_rollback error

/-- One that does not raise returns. -/
theorem exec_processMessageCallback_ok
    (returned : Fallible.exec (World.handler faults engine) (executeAndCommit payload)
      world.cleared = (.ok (), after)) :
    Fallible.exec (World.handler faults engine) (processMessageCallback payload) world =
      (.ok (), after) := by
  have opened : Fallible.exec (World.handler faults engine)
      (Fallible.lift (ask .openSession) : Service Unit) world = (.ok (), world.cleared) := rfl
  rw [processMessageCallback, Fallible.exec_bind_ok opened, Fallible.exec_tryCatch, returned]

/-- An event whose handling does not raise is committed. -/
theorem exec_executeAndCommit
    (executed : Fallible.exec (World.handler faults engine) (execute payload) world =
      (.ok (), after)) :
    Fallible.exec (World.handler faults engine) (executeAndCommit payload) world =
      if faults.raises .commit then
        (.error .sqlError, if faults.applied .commit then after.commitUnheard else after)
      else after.commit := by
  rw [executeAndCommit, Fallible.exec_bind_ok executed]
  rfl

/-- A person event is handled with the embedding it carries. -/
theorem exec_execute_person (read : readEvent payload = .ok detection)
    (person : detection.kind = .person)
    (carried : detection.detection.getD "embedding" (.arr []) = .ok embedding) :
    Fallible.exec (World.handler faults engine) (execute payload) world =
      Fallible.exec (World.handler faults engine) (handlePersonDetection detection embedding)
        world := by
  have reads : Fallible.exec (World.handler faults engine) (evaluate (readEvent payload)) world =
      (.ok detection, world) := by
    rw [read]
    rfl
  have carries : Fallible.exec (World.handler faults engine)
      (evaluate (detection.detection.getD "embedding" (.arr []))) world =
        (.ok embedding, world) := by
    rw [carried]
    rfl
  rw [execute, Fallible.exec_bind_ok reads, handleDetection, person]
  exact Fallible.exec_bind_ok carries

/-- …and raises when none can be read from it. -/
theorem exec_execute_unreadable {error : PyError} (read : readEvent payload = .ok detection)
    (person : detection.kind = .person)
    (unreadable : detection.detection.getD "embedding" (.arr []) = .error error) :
    Fallible.exec (World.handler faults engine) (execute payload) world =
      (.error error, world) := by
  have reads : Fallible.exec (World.handler faults engine) (evaluate (readEvent payload)) world =
      (.ok detection, world) := by
    rw [read]
    rfl
  rw [execute, Fallible.exec_bind_ok reads, handleDetection, person, unreadable]
  rfl

/-- **A committed sighting**: the person row and one tracking row. -/
theorem exec_processMessageCallback_commits {qdrant : Qdrant} {person : Person} {n : ℕ}
    (fresh : world.Fresh)
    (executed : Fallible.exec (World.handler faults engine) (execute payload) world.cleared =
      (.ok (), after)) (sighting : Sighting detection world.cleared qdrant person n after)
    (commits : ¬ faults.raises .commit = true) :
    ∃ final, Fallible.exec (World.handler faults engine) (processMessageCallback payload) world =
        (.ok (), final) ∧ final.qdrant = qdrant ∧
      final.database.persons = Function.update world.database.persons person.id (some person) ∧
      final.database.events =
        world.database.events ++ [detection.trackingEvent (world.entropy n) person.id] := by
  obtain ⟨database, sent, persons, events⟩ :=
    @Database.sendAll_sighting world.database person
      (detection.trackingEvent (world.entropy n) person.id) rfl (fresh.events n)
  have accepted : world.cleared.database.sendAll (world.cleared.session ++
      [Database.personWrite (world.cleared.database.persons person.id) person,
        .insertEvent (detection.trackingEvent (world.cleared.entropy n) person.id)]) =
      some database := sent
  have committed : after.commit = (.ok (), { after.cleared with database }) := by
    rw [World.commit, sighting.database, sighting.session, accepted]
  have transaction := exec_executeAndCommit executed
  rw [if_neg commits, committed] at transaction
  exact ⟨_, exec_processMessageCallback_ok transaction, sighting.qdrant, persons, events⟩

end Callback

end PersonTracking.Analytics
