import Mathlib.Data.List.Sort
import PersonTracking.Analytics.TrackingRoutes
import PersonTracking.Library.Keyset

/-!
# The pages of the tracking events

`get_recent_events` orders by the timestamp alone and asks for events strictly before
its cursor, while all detections of a frame share one timestamp.  A client that takes
the timestamp of the last event of a page as the next cursor gets every event if and
only if the events of one timestamp lie on one page (`readEvents_iff`).
-/

namespace PersonTracking.Analytics

open Library Python Domain

/-- When an event was, for the database. -/
abbrev eventInstant (event : TrackingEvent) : Int := event.timestamp.instant

/-- `ORDER BY timestamp DESC`; the database arranges events of one timestamp as it
likes. -/
structure Descending where
  sort : List TrackingEvent → List TrackingEvent
  perm : ∀ rows, (sort rows).Perm rows
  sorted : ∀ rows, (sort rows).Pairwise fun event next => eventInstant next ≤ eventInstant event

/-- `get_recent_events`. -/
def getRecentEvents (order : Descending) (table : List TrackingEvent) (limit : ℕ)
    (before : Option DateTime) : List TrackingEvent :=
  let rows := match before with
    | some before => table.filter fun event => event.timestamp.instant < before.instant
    | none => table
  (order.sort rows).take limit

/-- The rows of a query are those below its cursor. -/
theorem getRecentEvents_eq (order : Descending) (table : List TrackingEvent) (limit : ℕ)
    (before : Option DateTime) :
    getRecentEvents order table limit before =
      (order.sort (older eventInstant (before.map DateTime.instant) table)).take limit := by
  cases before with
  | none => rw [Option.map_none, older_none, getRecentEvents]
  | some before => rfl

/-- A table that does not change, read with a page size; every query may arrange the
events of one timestamp anew. -/
def recentEvents (orders : ℕ → Descending) (table : List TrackingEvent) (limit : ℕ) :
    Paged TrackingEvent DateTime where
  fetch query before := getRecentEvents (orders query) table limit before
  stamp := TrackingEvent.timestamp
  left before := (older eventInstant (before.map DateTime.instant) table).length
  shrinks := by
    intro query before last member
    rw [getRecentEvents_eq] at member
    exact length_older_lt (((orders query).perm _).mem_iff.mp (List.mem_of_mem_take member))

/-- The pages of the tracking events are keyset pages. -/
theorem isKeyset_recentEvents (orders : ℕ → Descending) (table : List TrackingEvent) (limit : ℕ) :
    (recentEvents orders table limit).IsKeyset DateTime.instant limit table where
  page query before := ⟨_, (orders query).perm _, (orders query).sorted _,
    getRecentEvents_eq (orders query) table limit before⟩

/-- The events a client reads that starts without a cursor and goes on until a page is
empty. -/
def readEvents (orders : ℕ → Descending) (table : List TrackingEvent) (limit : ℕ) :
    List TrackingEvent :=
  (recentEvents orders table limit).readFrom 0 none

/-- However the ties fall, no event is read twice and the timestamps do not increase. -/
theorem subperm_readEvents (orders : ℕ → Descending) (table : List TrackingEvent) (limit : ℕ) :
    (readEvents orders table limit).Subperm table ∧
      (readEvents orders table limit).Pairwise
        fun event next => eventInstant next ≤ eventInstant event := by
  have read := (isKeyset_recentEvents orders table limit).subperm_readFrom 0 none
  rw [Option.map_none, older_none] at read
  exact read

/-- **When the pages are complete.**  For every table, however the database arranges
events of one timestamp and for every page size of at least one: a client reads every
event exactly once, in non-increasing order of the timestamps, if and only if the events
of one timestamp lie on one page. -/
theorem readEvents_iff (orders : ℕ → Descending) (table : List TrackingEvent) (limit : ℕ)
    (positive : 0 < limit) :
    ((readEvents orders table limit).Perm table ∧
        (readEvents orders table limit).Pairwise
          fun event next => eventInstant next ≤ eventInstant event) ↔
      TiesOnOnePage eventInstant limit table := by
  have complete := (isKeyset_recentEvents orders table limit).readFrom_perm_iff positive 0 none
  rw [Option.map_none, older_none] at complete
  exact (and_iff_left (subperm_readEvents orders table limit).2).trans complete

/-! ## Three detections of one frame -/

/-- The later event first. -/
def Later (event next : TrackingEvent) : Prop := eventInstant next ≤ eventInstant event

instance : DecidableRel Later := fun event next =>
  inferInstanceAs (Decidable (eventInstant next ≤ eventInstant event))

instance : Std.Total Later := ⟨fun event next => le_total (eventInstant next) (eventInstant event)⟩

instance : IsTrans TrackingEvent Later := ⟨fun _ _ _ first second => le_trans second first⟩

/-- Insertion sort arranges events of one timestamp as they are in the table. -/
def inTableOrder : Descending where
  sort := List.insertionSort Later
  perm := List.perm_insertionSort Later
  sorted := List.pairwise_insertionSort Later

/-- A detection of a frame. -/
def detectionEvent (id : Uuid) : TrackingEvent where
  id := id
  personId := none
  cameraId := .ofNat 0
  confidence := .null
  bbox := { left := .int 0, top := .int 0, width := .int 1, height := .int 1 }
  cropPath := .null
  timestamp := .epoch

/-- The detections of one frame. -/
def oneFrame : List TrackingEvent :=
  [detectionEvent (.ofNat 1), detectionEvent (.ofNat 2), detectionEvent (.ofNat 3)]

theorem readEvents_oneFrame :
    (readEvents (fun _ => inTableOrder) oneFrame 3).Perm oneFrame ∧
      (readEvents (fun _ => inTableOrder) oneFrame 3).Pairwise
        fun event next => eventInstant next ≤ eventInstant event :=
  (readEvents_iff (fun _ => inTableOrder) oneFrame 3 (by decide)).mpr (by decide +kernel)

/-- Read two at a time, the third detection is lost. -/
theorem tie_lost :
    readEvents (fun _ => inTableOrder) oneFrame 2 =
        [detectionEvent (.ofNat 1), detectionEvent (.ofNat 2)] ∧
      ¬ (readEvents (fun _ => inTableOrder) oneFrame 2).Perm oneFrame := by
  have held : ((recentEvents (fun _ => inTableOrder) oneFrame 2).fetch 0 none).getLast? =
      some (detectionEvent (.ofNat 2)) := rfl
  have empty : (recentEvents (fun _ => inTableOrder) oneFrame 2).fetch 1
      (some (detectionEvent (.ofNat 2)).timestamp) = [] := rfl
  have read : readEvents (fun _ => inTableOrder) oneFrame 2 =
      [detectionEvent (.ofNat 1), detectionEvent (.ofNat 2)] := by
    rw [readEvents, Paged.readFrom_of_getLast? held]
    exact congrArg _ (Paged.readFrom_of_empty empty)
  refine ⟨read, fun all => ?_⟩
  rw [read] at all
  exact absurd all.length_eq (by decide)

end PersonTracking.Analytics
