import PersonTracking.AiService.CropSaver
import PersonTracking.Scheduler.Outcome

/-!
# A run in which nothing fails

`executeCleanupJob_exact`: with crop paths as `CropSaver` returns them and no
event of a person later than the person's `last_seen`, the job leaves the rows
from the cutoff on, unchanged, and takes from the other stores the crops of the
removed rows and the vectors of the removed persons, and nothing else.
-/

namespace PersonTracking.Scheduler

open Library Python Shared AiService

/-! ## Crops of rows -/

/-- The job finds the object of a saved crop in its path. -/
theorem cropObject_path (settings : Settings) (crop : SavedCrop) :
    settings.cropObject crop.path = crop.object := by
  have bucket : ∀ c ∈ crop.bucketName.toList, (c ≠ '/' : Bool) = true := by
    intro c member
    rw [decide_eq_true_eq]
    rintro rfl
    exact crop.bucketed member
  have before : (crop.path.toList.takeWhile fun c => c ≠ '/') = crop.bucketName.toList := by
    rw [crop.toList_path, List.takeWhile_append_of_pos bucket, List.takeWhile_cons_of_neg (by simp),
      List.append_nil]
  have after : (crop.path.toList.dropWhile fun c => c ≠ '/') = '/' :: crop.objectName.toList := by
    rw [crop.toList_path, List.dropWhile_append_of_pos bucket, List.dropWhile_cons_of_neg (by simp)]
  rw [Settings.cropObject, after, before]
  dsimp only
  rw [String.ofList_toList, String.ofList_toList]
  rfl

theorem mem_truthy {paths : List (Option String)} {path : String} :
    path ∈ truthy paths ↔ some path ∈ paths ∧ path ≠ "" := by
  rw [truthy, List.mem_filter, List.mem_filterMap]
  simp

namespace Tables

/-- A row with this crop path is expired. -/
def CropExpired (tables : Tables) (cutoff : Instant) (path : String) : Prop :=
  (∃ row ∈ tables.tracking.rows, row.timestamp < cutoff ∧ row.cropPath = some path) ∨
    ∃ row ∈ tables.fire.rows, row.timestamp < cutoff ∧ row.cropPath = some path

theorem mem_expiredCrops {tables : Tables} {cutoff : Instant} {path : String} :
    path ∈ tables.expiredCrops cutoff ↔ tables.CropExpired cutoff path ∧ path ≠ "" := by
  rw [expiredCrops, List.mem_append, mem_truthy, mem_truthy, ← or_and_right, CropExpired]
  simp only [List.mem_map, expiredTracking, expiredFire, Table.mem_select, decide_eq_true_eq,
    and_assoc]

/-- Every crop path is one that `save_crop_async` has returned. -/
structure CropsSaved (tables : Tables) : Prop where
  tracking : ∀ row ∈ tables.tracking.rows, ∀ path, row.cropPath = some path →
    ∃ crop : SavedCrop, crop.path = path
  fire : ∀ row ∈ tables.fire.rows, ∀ path, row.cropPath = some path →
    ∃ crop : SavedCrop, crop.path = path

theorem CropsSaved.exists_path {tables : Tables} (saved : tables.CropsSaved) {cutoff : Instant}
    {path : String} (expired : tables.CropExpired cutoff path) :
    ∃ crop : SavedCrop, crop.path = path := by
  rcases expired with ⟨row, here, -, carries⟩ | ⟨row, here, -, carries⟩
  · exact saved.tracking row here path carries
  · exact saved.fire row here path carries

/-- No person was seen after `last_seen`. -/
def Bounded (tables : Tables) : Prop :=
  ∀ person ∈ tables.persons.rows, ∀ row ∈ tables.tracking.rows,
    row.personId = some person.id → row.timestamp ≤ person.lastSeen

/-- A tracking row that is not expired belongs to nobody who is. -/
theorem notMem_expiredPersonIds {tables : Tables} (bounded : tables.Bounded) {cutoff : Instant}
    {row : TrackingRow} (here : row ∈ tables.tracking.rows) (recent : cutoff ≤ row.timestamp)
    (id : Uuid) (refers : row.personId = some id) : id ∉ tables.expiredPersonIds cutoff := by
  intro expired
  obtain ⟨person, selected, rfl⟩ := List.mem_map.mp expired
  obtain ⟨listed, old⟩ := Table.mem_select.mp selected
  have seen := bounded person listed row here refers
  have notSeen : person.lastSeen < cutoff := by simpa using old
  exact lt_irrefl _ (notSeen.trans_le (recent.trans seen))

end Tables

/-! ## The run -/

/-- The stores after a run that has removed what is expired, and nothing else. -/
structure Retained (cutoff : Instant) (before after : Stores) : Prop where
  tracking : after.tables.tracking.rows =
    before.tables.tracking.select fun row => cutoff ≤ row.timestamp
  fire : after.tables.fire.rows = before.tables.fire.select fun row => cutoff ≤ row.timestamp
  persons : after.tables.persons.rows =
    before.tables.persons.select fun row => cutoff ≤ row.lastSeen
  objects : ∀ object, object ∈ after.minio.objects ↔ object ∈ before.minio.objects ∧
    ¬ ∃ crop : SavedCrop, crop.object = object ∧ before.tables.CropExpired cutoff crop.path
  vectors : ∀ point, after.qdrant.points point =
    if ∃ id ∈ before.tables.expiredPersonIds cutoff, PointId.str id.toText = point then none
    else before.qdrant.points point

theorem not_selectionFails_never (cutoff : Instant) : ¬ SelectionFails .never cutoff := by
  simp [SelectionFails, Failures.never]

theorem not_deletionFails_never (tables : Tables) (cutoff : Instant) :
    ¬ DeletionFails .never tables cutoff := by
  simp [DeletionFails, Failures.never]

theorem not_forgettingFails_never (qdrant : Qdrant) (ids : List Uuid) :
    ¬ ForgettingFails .never qdrant ids := by
  simp [ForgettingFails, Failures.never]

theorem select_not_lt {ρ : Type} {key : ρ → Uuid} (table : Table Uuid ρ key) (time : ρ → Instant)
    (cutoff : Instant) :
    (table.select fun row => !decide (time row < cutoff)) =
      table.select fun row => cutoff ≤ time row := by
  refine List.filter_congr fun row _ => ?_
  rw [← decide_not, decide_eq_decide, not_lt]

/-- **A run in which nothing fails is exact.** -/
theorem executeCleanupJob_exact (settings : Settings) (now : Instant) (engine : Engine)
    (stores : Stores) (bounded : stores.tables.Bounded) (saved : stores.tables.CropsSaved) :
    ∃ after, Fallible.exec (Stores.handler .never engine) (executeCleanupJob settings now) stores =
        (.ok (), after) ∧ Retained (settings.retentionCutoff now) stores after := by
  refine ⟨_, executeCleanupJob_of_committed (not_selectionFails_never _)
    (not_deletionFails_never _ _), ?_, ?_, ?_, ?_, ?_⟩
  · show (stores.tables.purged _).tracking.rows = _
    rw [Tables.rows_tracking_purged, select_not_lt]
    -- a row that is kept refers to nobody who is deleted, so its reference is not set to null
    refine (List.map_congr_left fun row member => ?_).trans (List.map_id _)
    obtain ⟨here, recent⟩ := Table.mem_select.mp member
    exact TrackingRow.detach_of_kept
      (Tables.notMem_expiredPersonIds bounded here (by simpa using recent))
  · show (stores.tables.purged _).fire.rows = _
    rw [Tables.rows_fire_purged, select_not_lt]
  · show (stores.tables.purged _).persons.rows = _
    rw [Tables.rows_persons_purged, select_not_lt]
  · intro object
    show object ∈ (Minio.removeEach _ _ _).objects ↔ _
    rw [Minio.mem_objects_removeEach]
    show _ ∧ object ∉ Minio.removed (fun _ => false) _ _ ↔ _
    rw [Minio.removed_never, List.mem_map]
    -- the paths in the rows are those of saved crops, and each leads to its object
    refine and_congr_right fun _ => not_congr ⟨?_, ?_⟩
    · rintro ⟨path, listed, located⟩
      have expired := (Tables.mem_expiredCrops.mp listed).1
      obtain ⟨crop, rfl⟩ := saved.exists_path expired
      exact ⟨crop, (cropObject_path settings crop).symm.trans located, expired⟩
    · rintro ⟨crop, located, expired⟩
      exact ⟨crop.path, Tables.mem_expiredCrops.mpr ⟨expired, crop.path_ne_empty⟩,
        (cropObject_path settings crop).trans located⟩
  · intro point
    show (forgotten .never engine _ _).points point = _
    rw [points_forgotten .never engine rfl]
    simp only [not_forgettingFails_never, not_false_eq_true, true_and]
    rfl

/-! ### A store content -/

/-- Thirty days, and crops without a bucket. -/
def exampleSettings : Settings where
  retentionDays := 30
  minioBucketCrops := "person-crops"

/-- A time at which the cutoff is 100. -/
def exampleNow : Instant := 2592000000100

def exampleUuid (n : ℕ) : Uuid := ⟨n % 2 ^ 128, Uuid.mod_bound n⟩

/-- A person seen last at some time. -/
def personSeen (n : ℕ) (lastSeen : Instant) : PersonRow where
  id := exampleUuid n
  displayName := none
  firstSeen := 0
  lastSeen := lastSeen
  totalAppearances := 1
  createdAt := 0

/-- The crop of a tracking event. -/
def exampleCrop (n : ℕ) : SavedCrop where
  bucketName := "detection-crops"
  objectType := "person"
  objectId := exampleUuid n
  bucketed := by decide +kernel

/-- A sighting of a person. -/
def sightingOf (n person : ℕ) (timestamp : Instant) : TrackingRow where
  id := exampleUuid n
  personId := some (exampleUuid person)
  cameraId := exampleUuid 0
  bbox := ⟨.finite false 0 0, .finite false 0 0, .finite false 1 0, .finite false 1 0⟩
  confidence := .finite false 9 (-1)
  cropPath := some (exampleCrop n).path
  timestamp := timestamp
  createdAt := timestamp

/-- Person 1 is expired with its event, person 2 was seen before and after the cutoff. -/
def exampleTables : Tables where
  tracking := ⟨[sightingOf 11 1 10, sightingOf 12 2 50, sightingOf 13 2 200], by decide⟩
  fire := .empty
  persons := ⟨[personSeen 1 10, personSeen 2 200], by decide⟩
  alerts := .empty
  attributed := by
    intro row member id refers
    simp only [List.mem_cons, List.not_mem_nil, or_false] at member
    rcases member with rfl | rfl | rfl
    all_goals
      cases refers
      decide
  concerned _ member := by cases member

/-- The vector of a person. -/
def vectorOf (n : ℕ) : PointStruct where
  id := .str (exampleUuid n).toText
  vector := .null
  payload := .null

/-- The tables, every person's vector and every event's crop. -/
def exampleStores : Stores where
  tables := exampleTables
  session := []
  qdrant := (Qdrant.empty.put Qdrant.present_empty (exampleUuid 1) (vectorOf 1)).put
    Qdrant.present_empty (exampleUuid 2) (vectorOf 2)
  minio := { objects := {(exampleCrop 11).object, (exampleCrop 12).object, (exampleCrop 13).object}
             asked := 0 }

theorem bounded_exampleTables : exampleTables.Bounded := by
  unfold Tables.Bounded
  decide

theorem cropsSaved_exampleTables : exampleTables.CropsSaved where
  tracking := by
    intro row member path carries
    simp only [exampleTables, List.mem_cons, List.not_mem_nil, or_false] at member
    rcases member with rfl | rfl | rfl
    all_goals exact ⟨_, Option.some_inj.mp carries⟩
  fire _ member := by cases member

theorem executeCleanupJob_exact_example :
    ∃ after, Fallible.exec (Stores.handler .never Engine.silent)
        (executeCleanupJob exampleSettings exampleNow) exampleStores = (.ok (), after) ∧
      Retained (exampleSettings.retentionCutoff exampleNow) exampleStores after :=
  executeCleanupJob_exact exampleSettings exampleNow Engine.silent exampleStores
    bounded_exampleTables cropsSaved_exampleTables

end PersonTracking.Scheduler
