import PersonTracking.Analytics.Atomicity
import PersonTracking.Library.Transition

/-!
# A failing vector search and new identities

`search_similar` answers a query that raised like one without matches, so the
use case cannot tell "nobody" from "not known" and creates a person.  A `Retry`
is a person event that is processed again and again until an attempt returns;
in every attempt the calls fail in their own way.

The event is one that some stored vector matches.  `attributed_of_contained`:
as long as every attempt whose query raises raises again and has written no
vector, the event ends up with the matched person or nowhere.
`exec_mints` is what happens otherwise.
-/

namespace PersonTracking.Analytics

open Library Python Shared Domain

/-- A commit that raises although it is carried out. -/
def CommitsUnheard (faults : Program.Faults Call) : Prop :=
  faults.raises .commit = true ∧ faults.applied .commit = true

instance (faults : Program.Faults Call) : Decidable (CommitsUnheard faults) :=
  inferInstanceAs (Decidable (_ ∧ _))

/-- A person event between two attempts, and how many of them have had a commit
that was carried out unheard. -/
structure Retry where
  world : World
  processed : Bool
  unheard : ℕ

namespace Retry

/-- What an attempt makes of the event. -/
def attempted (retry : Retry) (faults : Program.Faults Call) : Except PyError Unit × World → Retry
  | (.ok _, world) => { retry with world, processed := true }
  | (.error _, world) =>
      { retry with world, unheard := retry.unheard + if CommitsUnheard faults then 1 else 0 }

/-- One attempt more, with its way of failing; none after the first that returns. -/
def step (engine : Engine) (payload : Json) (retry : Retry) (faults : Program.Faults Call) :
    Option Retry :=
  if retry.processed then none
  else some (retry.attempted faults
    (Fallible.exec (World.handler faults engine) (processMessageCallback payload) retry.world))

end Retry

/-- The query of the search raises. -/
def QueryRaises (faults : Program.Faults Call) (embedding : Json) : Prop :=
  faults.raises
    (.qdrant (.queryPoints QdrantVectorStore.collectionName embedding 1 matchThreshold)) = true

/-- An attempt whose query raises raises again, and has written no vector. -/
def Contained (detection : Detection) (embedding : Json) (retry : Retry)
    (faults : Program.Faults Call) : Prop :=
  QueryRaises faults embedding →
    ¬ Checks faults retry.world ∨ ReadRaises faults retry.world ∨
      (IndexRaises faults retry.world embedding detection.timestamp ∧
        ¬ IndexedUnheard faults retry.world embedding detection.timestamp)

/-- Where the event is attributed to a person, under some ids: a row for each of
them, no other person row touched, and without any nothing at all. -/
structure Attributed (detection : Detection) (id : Uuid) (before after : Database)
    (eventIds : List Uuid) : Prop where
  events : after.events =
    before.events ++ eventIds.map fun eventId => detection.trackingEvent eventId id
  others : ∀ other, other ≠ id → after.persons other = before.persons other
  untouched : eventIds = [] → after = before

theorem attributed_refl (detection : Detection) (id : Uuid) (db : Database) :
    Attributed detection id db db [] where
  events := (List.append_nil _).symm
  others _ _ := rfl
  untouched _ := rfl

/-- One more commit for the person. -/
theorem Attributed.commit {detection : Detection} {id eventId : Uuid}
    {before db after : Database} {eventIds : List Uuid} {person : Person}
    (attributed : Attributed detection id before db eventIds) (same : person.id = id)
    (sent : db.sendAll [Database.personWrite (db.persons person.id) person,
      .insertEvent (detection.trackingEvent eventId person.id)] = some after) :
    Attributed detection id before after (eventIds ++ [eventId]) := by
  obtain ⟨persons, events⟩ := Database.sendAll_sighting_eq_some sent
  subst same
  refine ⟨?_, fun other different => ?_, fun none => by simp at none⟩
  · rw [events, attributed.events, List.append_assoc, List.map_append]
    rfl
  · rw [persons, Function.update_of_ne different]
    exact attributed.others other different

/-- The event is attributed to the matched person once an attempt has returned, and
before that at most by commits nobody has heard of: there is one row for every
commit that was carried out, so none while no commit was. -/
structure Retry.Sound (detection : Detection) (id : Uuid) (start : World) (retry : Retry) :
    Prop where
  points : retry.world.qdrant.points = start.qdrant.points
  attributed : ∃ eventIds, Attributed detection id start.database retry.world.database eventIds ∧
    (retry.processed = true → eventIds ≠ []) ∧
    eventIds.length ≤ retry.unheard + if retry.processed then 1 else 0

section Attempt

variable {faults : Program.Faults Call} {engine : Engine} {payload : Json} {detection : Detection}
  {embedding : Json} {start world after : World} {qdrant : Qdrant} {id : Uuid}

/-- An attempt that raises with points and tables as they were leaves the retry sound. -/
theorem Retry.Sound.raise {unheard : ℕ}
    (sound : Retry.Sound detection id start ⟨world, false, unheard⟩)
    {error : PyError} (points : after.qdrant.points = start.qdrant.points)
    (database : after.database = world.database) :
    ((Retry.mk world false unheard).attempted faults (.error error, after)).Sound detection id
      start := by
  obtain ⟨eventIds, attributed, -, bound⟩ := sound.attributed
  refine ⟨points, eventIds, ?_, fun processed => absurd processed Bool.false_ne_true, ?_⟩
  · show Attributed detection id start.database after.database eventIds
    rw [database]
    exact attributed
  · exact bound.trans (Nat.add_le_add_right (Nat.le_add_right _ _) _)

/-- An event that raises without a change of the points leaves the retry sound. -/
theorem sound_of_raised {unheard : ℕ}
    (sound : Retry.Sound detection id start ⟨world, false, unheard⟩) {error : PyError}
    (raised : Fallible.exec (World.handler faults engine) (execute payload) world.cleared =
      (.error error, after)) (kept : Kept world.cleared qdrant after)
    (points : qdrant.points = start.qdrant.points) :
    ((Retry.mk world false unheard).attempted faults (Fallible.exec (World.handler faults engine)
      (processMessageCallback payload) world)).Sound detection id start := by
  have transaction : Fallible.exec (World.handler faults engine) (executeAndCommit payload)
      world.cleared = (.error error, after) := Fallible.exec_bind_error raised
  obtain ⟨error, outcome⟩ := exec_processMessageCallback_error transaction
  rw [outcome]
  exact sound.raise (by rw [← points, ← kept.qdrant]; rfl) kept.database

/-- A sighting of the matched person keeps the retry sound, however its commit ends. -/
theorem sound_of_sighting {unheard : ℕ}
    (sound : Retry.Sound detection id start ⟨world, false, unheard⟩) {person : Person} {n : ℕ}
    (same : person.id = id)
    (executed : Fallible.exec (World.handler faults engine) (execute payload) world.cleared =
      (.ok (), after)) (sighting : Sighting detection world.cleared qdrant person n after)
    (points : qdrant.points = start.qdrant.points) :
    ((Retry.mk world false unheard).attempted faults (Fallible.exec (World.handler faults engine)
      (processMessageCallback payload) world)).Sound detection id start := by
  have transaction := exec_executeAndCommit executed
  have samePoints : after.qdrant.points = start.qdrant.points := by
    rw [sighting.qdrant]
    exact points
  -- what raises with the tables as they were
  have rolledBack : ∀ {error : PyError}, Fallible.exec (World.handler faults engine)
      (executeAndCommit payload) world.cleared = (.error error, after) →
      ((Retry.mk world false unheard).attempted faults (Fallible.exec (World.handler faults engine)
        (processMessageCallback payload) world)).Sound detection id start := by
    intro error raised
    obtain ⟨error, outcome⟩ := exec_processMessageCallback_error raised
    rw [outcome]
    exact sound.raise samePoints sighting.database
  cases sent : after.database.sendAll after.session with
  | none =>
      rw [World.commit, World.commitUnheard, sent] at transaction
      dsimp only at transaction
      rw [ite_self, ite_self] at transaction
      exact rolledBack transaction
  | some committed =>
      obtain ⟨eventIds, attributed, -, bound⟩ := sound.attributed
      have more : Attributed detection id start.database committed
          (eventIds ++ [world.cleared.entropy n]) := by
        rw [sighting.database, sighting.session] at sent
        exact attributed.commit same sent
      rw [World.commit, World.commitUnheard, sent] at transaction
      split at transaction
      · rename_i raises
        split at transaction
        · rename_i applied
          have commits : CommitsUnheard faults := ⟨raises, applied⟩
          obtain ⟨error, outcome⟩ := exec_processMessageCallback_error transaction
          rw [outcome]
          refine ⟨samePoints, _, more, fun processed => absurd processed Bool.false_ne_true, ?_⟩
          show (eventIds ++ [_]).length ≤ unheard + (if CommitsUnheard faults then 1 else 0) + 0
          rw [if_pos commits, List.length_append]
          exact Nat.add_le_add_right bound 1
        · exact rolledBack transaction
      · rw [exec_processMessageCallback_ok transaction]
        refine ⟨samePoints, _, more, fun _ => by simp, ?_⟩
        rw [List.length_append]
        exact Nat.add_le_add_right bound 1

end Attempt

/-! ## Runs -/

section Run

variable {engine : Engine} {payload : Json} {detection : Detection} {embedding : Json}
  {start : World} {first : QdrantVectorStore.Match} {others : List QdrantVectorStore.Match}
  (read : readEvent payload = .ok detection) (person : detection.kind = .person)
  (carried : detection.detection.getD "embedding" (.arr []) = .ok embedding)
  (reid : isReidVector embedding = .ok true) (finds : engine.Finds)
  (stored : QdrantVectorStore.readMatches (engine start.qdrant embedding 1 matchThreshold) =
    .ok (first :: others))

include read person carried reid finds stored

/-- One attempt keeps the retry sound. -/
theorem Retry.sound_step {retry next : Retry} {faults : Program.Faults Call}
    (sound : retry.Sound detection first.personId start)
    (contained : Contained detection embedding retry faults)
    (moved : Retry.step engine payload retry faults = some next) :
    next.Sound detection first.personId start := by
  obtain ⟨world, processed, unheard⟩ := retry
  cases processed with
  | true => cases moved
  | false =>
      cases moved
      have executes := @exec_execute_person faults engine world.cleared detection embedding payload
        read person carried
      cases checked : Qdrant.ensured (qdrantFaults faults) world.qdrant with
      | none =>
          have kept : Kept world.cleared (Qdrant.halted (qdrantFaults faults) world.qdrant)
              (world.cleared.setQdrant (Qdrant.halted (qdrantFaults faults) world.qdrant)) :=
            ⟨rfl, rfl⟩
          exact sound_of_raised sound
            (executes.trans (exec_handlePersonDetection_unchecked reid checked)) kept
            ((Qdrant.points_halted _ _).trans sound.points)
      | some qdrant =>
          have points : qdrant.points = start.qdrant.points :=
            (Qdrant.ensured_points checked).trans sound.points
          -- a query that raises reads as one that has found nobody
          by_cases query : QueryRaises faults embedding
          · have unmatched : Qdrant.answered (qdrantFaults faults) engine qdrant embedding 1
                matchThreshold = [] := if_pos query
            have searched := @exec_findPerson_unmatched faults engine world.cleared embedding qdrant
              reid checked unmatched
            by_cases reads : ReadRaises faults world
            · have kept : Kept world.cleared qdrant (world.cleared.setQdrant qdrant).minted :=
                ⟨rfl, rfl⟩
              exact sound_of_raised sound (executes.trans
                (exec_handlePersonDetection_unread searched reads)) kept points
            · -- contained: the attempt raises and no vector of a second identity is there
              obtain ⟨writes, unwritten⟩ : IndexRaises faults world embedding detection.timestamp ∧
                  ¬ IndexedUnheard faults world embedding detection.timestamp := by
                rcases contained query with unchecked | either
                · exact absurd (checks_iff.mpr ⟨qdrant, checked⟩) unchecked
                · exact either.resolve_left reads
              obtain ⟨after, handled, kept⟩ := exec_handlePersonDetection_unindexed searched reads
                reid (Qdrant.ensured_spec checked).1 (Or.inl writes)
              refine sound_of_raised sound (executes.trans handled) kept ?_
              rw [Qdrant.putUnheard_of_not_applied fun applied => unwritten ⟨writes, applied⟩]
              exact points
          · have found : Qdrant.answered (qdrantFaults faults) engine qdrant embedding 1
                matchThreshold = first :: others := by
              rw [Qdrant.answered, finds.samePoints qdrant start.qdrant points, stored]
              exact if_neg query
            obtain ⟨after, ⟨⟨error, handled⟩, kept⟩ | ⟨saved, same, handled, sighting⟩⟩ :=
              @exec_handlePersonDetection_matched faults engine world.cleared detection embedding
                qdrant first others reid checked found
            · exact sound_of_raised sound (executes.trans handled) kept points
            · exact sound_of_sighting sound same (executes.trans handled) sighting points

/-- **No duplicate identity.**  However often the event is attempted: when every
attempt whose query raises raises again and has written no vector, the event is
attributed to the matched person, by one row for each commit carried out, or the
tables are as they were. -/
theorem attributed_of_contained (attempts : List (Program.Faults Call)) (retry : Retry)
    (contained : Meets (Contained detection embedding) (Retry.step engine payload)
      ⟨start, false, 0⟩ attempts)
    (reached : runFrom (Retry.step engine payload) ⟨start, false, 0⟩ attempts = some retry) :
    retry.Sound detection first.personId start := by
  have atStart : Retry.Sound detection first.personId start ⟨start, false, 0⟩ :=
    ⟨rfl, [], attributed_refl _ _ _, fun processed => absurd processed Bool.false_ne_true,
      Nat.zero_le _⟩
  exact runFrom_invariant_of_meets
    (fun _ _ _ sound met moved =>
      Retry.sound_step read person carried reid finds stored sound met moved)
    atStart contained reached

end Run

/-! ### A minted duplicate -/

section Minted

variable {faults : Program.Faults Call} {engine : Engine} {payload : Json} {detection : Detection}
  {embedding : Json} {world : World}

/-- An attempt that is not contained mints: when only the query raises, the event
is committed for the UUID minted next. -/
theorem exec_mints (read : readEvent payload = .ok detection) (person : detection.kind = .person)
    (carried : detection.detection.getD "embedding" (.arr []) = .ok embedding)
    (reid : isReidVector embedding = .ok true) (fresh : world.Fresh)
    (present : world.qdrant.Present) (query : QueryRaises faults embedding)
    (checks : Checks faults world) (reads : ¬ ReadRaises faults world)
    (writes : ¬ IndexRaises faults world embedding detection.timestamp)
    (commits : ¬ faults.raises .commit = true) :
    ∃ after eventId, Fallible.exec (World.handler faults engine) (processMessageCallback payload)
        world = (.ok (), after) ∧
      after.database.events =
        world.database.events ++ [detection.trackingEvent eventId (world.entropy 0)] := by
  obtain ⟨qdrant, checked⟩ := checks_iff.mp checks
  have unmatched : Qdrant.answered (qdrantFaults faults) engine qdrant embedding 1 matchThreshold =
      [] := if_pos query
  have searched := @exec_findPerson_unmatched faults engine world.cleared embedding qdrant reid
    checked unmatched
  obtain ⟨after, handled, sighting⟩ := @exec_handlePersonDetection_indexed faults engine
    world.cleared detection embedding qdrant searched reads reid (Qdrant.ensured_spec checked).1
    writes ((Qdrant.present_of_ensured checked).mpr (Or.inl present))
  have executed := (exec_execute_person read person carried).trans handled
  obtain ⟨final, outcome, -, -, events⟩ :=
    exec_processMessageCallback_commits fresh executed sighting commits
  exact ⟨final, _, outcome, events⟩

end Minted

/-- The person whose vector is stored, by a number as the gallery does. -/
def knownId : Uuid := ⟨7, by norm_num⟩

/-- Tables and a collection that know one person. -/
def knownWorld : World :=
  { World.empty with
    database := Database.empty.putPerson (firstSighting knownId .epoch)
    qdrant := Qdrant.empty.put Qdrant.present_empty knownId ⟨.int 7, exampleEmbedding, .null⟩ }

theorem fresh_knownWorld : knownWorld.Fresh where
  points _ := Qdrant.points_put_of_ne (by simp)
  events := World.fresh_empty.events

/-- A search in it finds that person. -/
theorem readMatches_knownWorld :
    QdrantVectorStore.readMatches (Engine.only (.int 7) knownWorld.qdrant exampleEmbedding 1
      matchThreshold) = .ok [⟨knownId, .finite false 1 0, .null⟩] := by
  rfl

/-- Only the query raises. -/
def onlyQueryRaises : Program.Faults Call := .refusing fun
  | .qdrant (.queryPoints _ _ _ _) => true
  | _ => false

/-- The query raises, and so does the select of `upsert_person`. -/
def queryAndReadRaise : Program.Faults Call := .refusing fun
  | .qdrant (.queryPoints _ _ _ _) | .selectPerson .upsertPerson _ => true
  | _ => false

/-- The commit is carried out and raises. -/
def commitUnheard : Program.Faults Call where
  raises
    | .commit => true
    | _ => false
  applied _ := true

/-- Three attempts: one that raises, one whose commit nobody hears of, and one
that returns. -/
theorem attributed_to_known :
    ∃ detection retry, readEvent (exampleSighting "30") = .ok detection ∧
      runFrom (Retry.step (Engine.only (.int 7)) (exampleSighting "30")) ⟨knownWorld, false, 0⟩
        [queryAndReadRaise, commitUnheard, .never] = some retry ∧
      retry.processed = true ∧ retry.unheard = 1 ∧ retry.Sound detection knownId knownWorld := by
  obtain ⟨detection, read, person, carried⟩ := exists_readEvent_exampleSighting
  have runs : (runFrom (Retry.step (Engine.only (.int 7)) (exampleSighting "30"))
      ⟨knownWorld, false, 0⟩ [queryAndReadRaise, commitUnheard, .never]).map
        (fun retry => (retry.processed, retry.unheard)) = some (true, 1) := by decide +kernel
  obtain ⟨retry, reached, counts⟩ := Option.map_eq_some_iff.mp runs
  rw [Prod.mk.injEq] at counts
  refine ⟨detection, retry, read, reached, counts.1, counts.2, ?_⟩
  refine attributed_of_contained read person carried isReidVector_exampleEmbedding
    (Engine.finds_only _) readMatches_knownWorld [queryAndReadRaise, commitUnheard, .never] retry
    ⟨fun _ => Or.inr (Or.inl rfl), fun _ _ => ?_⟩ reached
  exact ⟨fun query => absurd query Bool.false_ne_true,
    fun _ _ => ⟨fun query => absurd query Bool.false_ne_true, fun _ _ => trivial⟩⟩

/-- **A transient failure mints a duplicate**: the person is known, only the query
raises, and the attempt commits the event for a new identity. -/
theorem duplicate_minted :
    ∃ detection retry, readEvent (exampleSighting "30") = .ok detection ∧
      runFrom (Retry.step (Engine.only (.int 7)) (exampleSighting "30")) ⟨knownWorld, false, 0⟩
        [onlyQueryRaises] = some retry ∧ ¬ retry.Sound detection knownId knownWorld := by
  obtain ⟨detection, read, person, carried⟩ := exists_readEvent_exampleSighting
  obtain ⟨after, eventId, outcome, events⟩ := @exec_mints onlyQueryRaises (Engine.only (.int 7)) _ _
    _ knownWorld read person carried isReidVector_exampleEmbedding fresh_knownWorld
    Qdrant.present_empty rfl (Or.inl rfl) Bool.false_ne_true Bool.false_ne_true Bool.false_ne_true
  refine ⟨detection, ⟨after, true, 0⟩, read, ?_, fun sound => ?_⟩
  · rw [runFrom_cons, Retry.step, outcome]
    rfl
  · obtain ⟨eventIds, attributed, -, -⟩ := sound.attributed
    have same := attributed.events
    rw [events, List.append_cancel_left_eq] at same
    cases eventIds with
    | nil => cases same
    | cons first rest =>
        rw [List.map_cons, List.cons.injEq] at same
        have persons := congrArg TrackingEvent.personId same.1
        exact absurd (Option.some.inj persons) (by decide)

end PersonTracking.Analytics
