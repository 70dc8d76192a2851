import PersonTracking.Analytics.Appearances
import PersonTracking.Analytics.Pagination

/-!
# The trail of a person

`get_person_trail` answers with all tracking rows of a person in the order of their
timestamps.  The row of the person in `persons` is a summary of the same rows, written by
the workers one sighting at a time.

`trail_agrees` says that the two agree in every state the workers reach, as long as
`upsert_person` finds only rows its transaction holds: there is a trail exactly for those
who have a row, it has as many points as the row counts appearances, and it begins at
`first_seen` and ends at `last_seen`.
-/

namespace PersonTracking.Analytics

open Library Python Shared Domain

/-- `ORDER BY timestamp ASC`; the database arranges events of one timestamp as it likes. -/
structure Ascending where
  sort : List TrackingEvent → List TrackingEvent
  perm : ∀ rows, (sort rows).Perm rows
  sorted : ∀ rows, (sort rows).Pairwise fun event next => eventInstant event ≤ eventInstant next

/-- `PersonTrailResponse`. -/
structure PersonTrailResponse where
  personId : String
  trailPoints : List TrailPointDTO

/-- The tracking rows of a person. -/
def eventsOf (table : List TrackingEvent) (personId : Uuid) : List TrackingEvent :=
  table.filter fun event => event.personId = some personId

/-- `_to_entity`: the time of a row, as the database gives it back. -/
def toEntity (row : TrackingEvent) : TrackingEvent :=
  { row with timestamp := row.timestamp.readBack }

/-- `get_trail_by_person_id`. -/
def getTrailByPersonId (order : Ascending) (table : List TrackingEvent) (personId : Uuid) :
    List TrackingEvent :=
  (order.sort (eventsOf table personId)).map toEntity

/-- The route `get_person_trail`. -/
def getPersonTrail (order : Ascending) (table : List TrackingEvent) (personId : String) :
    Except HTTPException PersonTrailResponse :=
  match Uuid.parse personId with
  | none => .error { statusCode := 400, detail := "Invalid person UUID format" }
  | some id =>
      match getTrailByPersonId order table id with
      | [] => .error {
          statusCode := 404
          detail := "No tracking trail found for person ID: " ++ personId }
      | event :: events => .ok { personId, trailPoints := (event :: events).map trailPoint }

/-- **A trail that agrees with a person row**: its points are the person's tracking rows, as
the database gives them back, in the order of time, as many as the row counts, from the first
time it gives to the last. -/
structure PersonTrailResponse.Agrees (response : PersonTrailResponse) (table : List TrackingEvent)
    (person : Person) (events : List TrackingEvent) : Prop where
  points : response.trailPoints = events.map trailPoint
  complete : events.Perm ((eventsOf table person.id).map toEntity)
  ordered : events.Pairwise fun event next => eventInstant event ≤ eventInstant next
  counted : response.trailPoints.length = person.totalAppearances
  begins : ∃ first, events.head? = some first ∧ eventInstant first = person.firstSeen.instant
  ends : ∃ last, events.getLast? = some last ∧ eventInstant last = person.lastSeen.instant

section Summaries

variable {order : Ascending} {database : Database} {personId : String} {id : Uuid}

/-- A row is given back with its instant. -/
theorem eventInstant_toEntity (row : TrackingEvent) :
    eventInstant (toEntity row) = eventInstant row := row.timestamp.instant_readBack

/-- The instants of a trail are those the person row summarises. -/
theorem times_getTrailByPersonId (order : Ascending) (database : Database) (id : Uuid) :
    ((getTrailByPersonId order database.events id).map eventInstant).Perm
      (database.timesOf id) := by
  rw [getTrailByPersonId, List.map_map, show eventInstant ∘ toEntity = eventInstant from
    funext eventInstant_toEntity]
  exact (order.perm _).map eventInstant

/-- They come in the order of time. -/
theorem pairwise_getTrailByPersonId (order : Ascending) (database : Database) (id : Uuid) :
    (getTrailByPersonId order database.events id).Pairwise
      fun event next => eventInstant event ≤ eventInstant next := by
  rw [getTrailByPersonId, List.pairwise_map]
  simp only [eventInstant_toEntity]
  exact order.sorted _

/-- The first of a sorted list is its least element. -/
theorem isLeast_head {events : List TrackingEvent} {first : TrackingEvent}
    (ordered : events.Pairwise fun event next => eventInstant event ≤ eventInstant next)
    (here : events.head? = some first) :
    IsLeast {t | t ∈ events.map eventInstant} (eventInstant first) := by
  obtain ⟨rest, rfl⟩ := List.head?_eq_some_iff.mp here
  refine ⟨List.mem_map_of_mem List.mem_cons_self, ?_⟩
  rintro t member
  obtain ⟨event, there, rfl⟩ := List.mem_map.mp member
  rcases List.mem_cons.mp there with rfl | later
  · exact le_rfl
  · exact (List.pairwise_cons.mp ordered).1 event later

/-- …and the last one is its greatest. -/
theorem isGreatest_getLast {events : List TrackingEvent} {last : TrackingEvent}
    (ordered : events.Pairwise fun event next => eventInstant event ≤ eventInstant next)
    (here : events.getLast? = some last) :
    IsGreatest {t | t ∈ events.map eventInstant} (eventInstant last) := by
  obtain ⟨rest, rfl⟩ := List.getLast?_eq_some_iff.mp here
  refine ⟨List.mem_map_of_mem (List.mem_append_right _ (List.mem_singleton_self _)), ?_⟩
  rintro t member
  obtain ⟨event, there, rfl⟩ := List.mem_map.mp member
  rcases List.mem_append.mp there with earlier | same
  · exact (List.pairwise_append.mp ordered).2.2 event earlier last (List.mem_singleton_self _)
  · rw [List.mem_singleton.mp same]

/-- Who has no row has no trail. -/
theorem getPersonTrail_of_missing (parsed : Uuid.parse personId = some id)
    (missing : database.persons id = none) :
    getPersonTrail order database.events personId = .error {
      statusCode := 404
      detail := "No tracking trail found for person ID: " ++ personId } := by
  have nothing : getTrailByPersonId order database.events id = [] := by
    have times := times_getTrailByPersonId order database id
    rw [Database.timesOf_eq_nil missing] at times
    exact List.map_eq_nil_iff.mp times.eq_nil
  simp only [getPersonTrail, parsed, nothing]

/-- **Who has a row that summarises has a trail that agrees.** -/
theorem getPersonTrail_of_summarises {person : Person} (parsed : Uuid.parse personId = some id)
    (row : database.persons id = some person)
    (summarises : person.Summarises (database.timesOf id)) :
    ∃ response events, getPersonTrail order database.events personId = .ok response ∧
      response.personId = personId ∧ response.Agrees database.events person events := by
  have own : person.id = id := database.keyed id person row
  have times := times_getTrailByPersonId order database id
  have total : (getTrailByPersonId order database.events id).length = person.totalAppearances := by
    rw [summarises.total, ← times.length_eq, List.length_map]
  have same : ∀ t, t ∈ (getTrailByPersonId order database.events id).map eventInstant ↔
      t ∈ database.timesOf id := fun t => times.mem_iff
  have ordered := pairwise_getTrailByPersonId order database id
  have found : getTrailByPersonId order database.events id ≠ [] := by
    intro nothing
    have positive := summarises.positive
    rw [← total, nothing] at positive
    exact absurd positive (by decide)
  have answered : getPersonTrail order database.events personId = .ok {
      personId
      trailPoints := (getTrailByPersonId order database.events id).map trailPoint } := by
    simp only [getPersonTrail, parsed]
    split
    · rename_i nothing
      exact absurd nothing found
    · rename_i event events listed
      rw [listed]
  refine ⟨_, getTrailByPersonId order database.events id, answered, rfl, ?_⟩
  constructor
  case points => rfl
  case complete =>
    rw [own]
    exact (order.perm _).map toEntity
  case ordered => exact ordered
  case counted => rw [List.length_map, total]
  case begins =>
    obtain ⟨first, here⟩ := Option.ne_none_iff_exists'.mp (mt List.head?_eq_none_iff.mp found)
    refine ⟨first, here, IsLeast.unique ?_ summarises.first⟩
    simp only [← same]
    exact isLeast_head ordered here
  case ends =>
    obtain ⟨last, here⟩ := Option.ne_none_iff_exists'.mp (mt List.getLast?_eq_none_iff.mp found)
    refine ⟨last, here, IsGreatest.unique ?_ summarises.last⟩
    simp only [← same]
    exact isGreatest_getLast ordered here

end Summaries

namespace Workers

variable {ι : Type} [DecidableEq ι]

/-- The workers of a run keep their drafts, as long as `upsert_person` finds only rows its
transaction holds. -/
theorem tracked_of_meets {moves : List (WorkerMove ι)} {after : WorkerPool ι}
    (guarded : Meets FindsOwn surroundings.step (start : WorkerPool ι) moves)
    (reached : runFrom surroundings.step start moves = some after) : Tracked after := by
  refine Surroundings.tracked ?_ (fun _ _ _ tracked _ happened => tracked_happen tracked happened)
    tracked_start guarded reached
  intro pool phases worker moment request next reply server tracks _ waiting allowed met answered
  refine tracks.answer allowed (fun id same => ?_) answered
  subst same
  rw [FindsOwn, waiting] at met
  exact met

/-- **Trails and person rows agree** in every state that workers on empty tables reach, as
long as `upsert_person` finds only rows its transaction holds.  A person id that is no UUID
is refused, one without a row has no trail, and one with a row has a trail that agrees
with it, however the database arranges events of one timestamp. -/
theorem trail_agrees {moves : List (WorkerMove ι)} {after : WorkerPool ι}
    (guarded : Meets FindsOwn surroundings.step (start : WorkerPool ι) moves)
    (reached : runFrom surroundings.step start moves = some after) (order : Ascending)
    (personId : String) :
    match Uuid.parse personId with
    | none => getPersonTrail order after.shared.database.events personId =
        .error { statusCode := 400, detail := "Invalid person UUID format" }
    | some id =>
        match after.shared.database.persons id with
        | none => getPersonTrail order after.shared.database.events personId = .error {
            statusCode := 404
            detail := "No tracking trail found for person ID: " ++ personId }
        | some person => ∃ response events,
            getPersonTrail order after.shared.database.events personId = .ok response ∧
              response.personId = personId ∧
                response.Agrees after.shared.database.events person events := by
  obtain ⟨phases, tracks, -⟩ := tracked_of_meets guarded reached
  cases parsed : Uuid.parse personId with
  | none => simp only [getPersonTrail, parsed]
  | some id =>
      dsimp only
      cases row : after.shared.database.persons id with
      | none => exact getPersonTrail_of_missing parsed row
      | some person =>
          exact getPersonTrail_of_summarises parsed row (tracks.summarised.rows id person row)

/-! ### A person seen twice -/

/-- The order of the recent events, reversed. -/
def oldestFirst : Ascending where
  sort rows := (inTableOrder.sort rows).reverse
  perm rows := (List.reverse_perm _).trans (inTableOrder.perm rows)
  sorted rows := List.pairwise_reverse.mpr (inTableOrder.sorted rows)

theorem trail_agrees_example :
    ∃ after person response events,
      runFrom surroundings.step start (receiveBoth ++ creates 11 ++ matchesPerson 9) = some after ∧
        after.shared.database.persons examplePerson = some person ∧
          getPersonTrail oldestFirst after.shared.database.events examplePerson.toText =
            .ok response ∧
          response.Agrees after.shared.database.events person events := by
  have guarded : Meets FindsOwn surroundings.step start
      (receiveBoth ++ creates 11 ++ matchesPerson 9) := by decide +kernel
  have row : ((runFrom surroundings.step start (receiveBoth ++ creates 11 ++ matchesPerson 9)).bind
      fun pool => pool.shared.database.persons examplePerson).isSome = true := by decide +kernel
  obtain ⟨person, found⟩ := Option.isSome_iff_exists.mp row
  obtain ⟨after, reached, there⟩ := Option.bind_eq_some_iff.mp found
  have agrees := trail_agrees guarded reached oldestFirst examplePerson.toText
  rw [Uuid.parse_toText] at agrees
  simp only [there] at agrees
  obtain ⟨response, events, answered, -, same⟩ := agrees
  exact ⟨after, person, response, events, reached, there, answered, same⟩

end Workers

end PersonTracking.Analytics
