import PersonTracking.Scheduler.Retention

/-!
# Rows, vectors and objects that lose each other

The job removes vectors and objects before it knows whether the rows go too, and
forgets what Qdrant and MinIO raise.  `noOrphans_iff` says for which stores and
which failures the rows and what belongs to them still go together.  A vector
belongs to the person it was stored for, whatever the id of its point: the job
deletes the points under the UUIDs of the persons, the gallery stores under numbers.
-/

namespace PersonTracking.Scheduler

open Library Python Shared

/-- A crop path leads to an object; the empty path leads nowhere. -/
def Settings.CropAt (settings : Settings) (cropPath : Option String) (object : ObjectRef) : Prop :=
  ∃ path, cropPath = some path ∧ path ≠ "" ∧ settings.cropObject path = object

/-- A row refers to an object. -/
def Tables.RefersTo (tables : Tables) (settings : Settings) (object : ObjectRef) : Prop :=
  (∃ row ∈ tables.tracking.rows, settings.CropAt row.cropPath object) ∨
    ∃ row ∈ tables.fire.rows, settings.CropAt row.cropPath object

/-- A row that is not expired refers to an object. -/
def Tables.CropKept (tables : Tables) (settings : Settings) (cutoff : Instant)
    (object : ObjectRef) : Prop :=
  (∃ row ∈ tables.tracking.rows, cutoff ≤ row.timestamp ∧ settings.CropAt row.cropPath object) ∨
    ∃ row ∈ tables.fire.rows, cutoff ≤ row.timestamp ∧ settings.CropAt row.cropPath object

/-- Rows, vectors and objects have gone together. -/
structure NoOrphans (settings : Settings) (before after : Stores) : Prop where
  persons : ∀ person ∈ before.tables.persons.rows, person.id ∉ after.tables.persons.keys →
    ∀ point, ¬ after.qdrant.Holds point person.id
  tracking : ∀ row ∈ before.tables.tracking.rows, row.id ∉ after.tables.tracking.keys →
    ∀ object, settings.CropAt row.cropPath object → object ∉ after.minio.objects
  fire : ∀ row ∈ before.tables.fire.rows, row.id ∉ after.tables.fire.keys →
    ∀ object, settings.CropAt row.cropPath object → object ∉ after.minio.objects
  vectors : ∀ point id, before.qdrant.Holds point id → ¬ after.qdrant.Holds point id →
    id ∉ after.tables.persons.keys
  objects : ∀ object ∈ before.minio.objects, object ∉ after.minio.objects →
    ¬ after.tables.RefersTo settings object

/-! ## The condition -/

/-- The vector deletion succeeds and takes this point: that of an expired person's UUID. -/
def Stores.SweepsPoint (stores : Stores) (failures : Failures) (cutoff : Instant)
    (point : PointId) : Prop :=
  ¬ ForgettingFails failures stores.qdrant (stores.tables.expiredPersonIds cutoff) ∧
    ∃ id ∈ stores.tables.expiredPersonIds cutoff, PointId.str id.toText = point

instance (stores : Stores) (failures : Failures) (cutoff : Instant) (point : PointId) :
    Decidable (stores.SweepsPoint failures cutoff point) := inferInstanceAs (Decidable (_ ∧ _))

/-- The objects whose removal succeeds. -/
def Stores.sweptObjects (stores : Stores) (failures : Failures) (settings : Settings)
    (cutoff : Instant) : List ObjectRef :=
  Minio.removed failures.removals stores.minio.asked
    ((stores.tables.expiredCrops cutoff).map settings.cropObject)

/-- Nothing that belongs to a row is removed from the other stores. -/
structure NothingSwept (failures : Failures) (settings : Settings) (cutoff : Instant)
    (stores : Stores) : Prop where
  vectors : ∀ point id, stores.SweepsPoint failures cutoff point → stores.qdrant.Holds point id →
    id ∉ stores.tables.persons.keys
  objects : ∀ object ∈ stores.sweptObjects failures settings cutoff,
    object ∉ stores.minio.objects

/-- Everything that is there of the expired rows is removed from the other stores,
and no vector or object of another row. -/
structure AllSwept (failures : Failures) (settings : Settings) (cutoff : Instant)
    (stores : Stores) : Prop where
  vectors : ∀ id ∈ stores.tables.expiredPersonIds cutoff, ∀ point, stores.qdrant.Holds point id →
    stores.SweepsPoint failures cutoff point
  spared : ∀ point id, stores.SweepsPoint failures cutoff point → stores.qdrant.Holds point id →
    id ∈ stores.tables.persons.keys → id ∈ stores.tables.expiredPersonIds cutoff
  objects : ∀ path ∈ stores.tables.expiredCrops cutoff,
    settings.cropObject path ∈ stores.minio.objects →
      settings.cropObject path ∈ stores.sweptObjects failures settings cutoff
  unshared : ∀ object ∈ stores.sweptObjects failures settings cutoff,
    object ∈ stores.minio.objects → ¬ stores.tables.CropKept settings cutoff object

/-! ## What goes -/

section Gone

variable {failures : Failures} {engine : Engine} {settings : Settings} {cutoff : Instant}
  {stores : Stores}

/-- The points a sweep takes are those under the UUIDs of the expired persons. -/
theorem points_swept (point : PointId) :
    (stores.swept failures engine settings cutoff).qdrant.points point =
      if stores.SweepsPoint failures cutoff point then none else stores.qdrant.points point := by
  show (forgotten failures engine (stores.tables.expiredPersonIds cutoff)
    stores.opened.qdrant).points _ = _
  rw [points_forgotten failures engine rfl]
  rfl

/-- The vectors that are left are those of the other points. -/
theorem holds_swept_iff {point : PointId} {id : Uuid} :
    (stores.swept failures engine settings cutoff).qdrant.Holds point id ↔
      stores.qdrant.Holds point id ∧ ¬ stores.SweepsPoint failures cutoff point := by
  rw [Qdrant.Holds, points_swept]
  by_cases taken : stores.SweepsPoint failures cutoff point
  · rw [if_pos taken]
    exact iff_of_false (fun ⟨_, wrong, _⟩ => by cases wrong) fun kept => kept.2 taken
  · rw [if_neg taken]
    exact ⟨fun holds => ⟨holds, taken⟩, And.left⟩

/-- The objects a sweep takes. -/
theorem mem_objects_swept {object : ObjectRef} :
    object ∈ (stores.swept failures engine settings cutoff).minio.objects ↔
      object ∈ stores.minio.objects ∧ object ∉ stores.sweptObjects failures settings cutoff :=
  Minio.mem_objects_removeEach

/-- An object that a sweep takes is the crop of an expired row. -/
theorem exists_crop_of_swept {object : ObjectRef}
    (swept : object ∈ stores.sweptObjects failures settings cutoff) :
    ∃ path ∈ stores.tables.expiredCrops cutoff, settings.cropObject path = object :=
  List.mem_map.mp (Minio.subset_of_mem_removed object swept)

theorem refersTo_of_expired {tables : Tables} {path : String}
    (expired : path ∈ tables.expiredCrops cutoff) :
    tables.RefersTo settings (settings.cropObject path) := by
  obtain ⟨found, some⟩ := Tables.mem_expiredCrops.mp expired
  rcases found with ⟨row, here, -, carries⟩ | ⟨row, here, -, carries⟩
  · exact Or.inl ⟨row, here, path, carries, some, rfl⟩
  · exact Or.inr ⟨row, here, path, carries, some, rfl⟩

variable {tables : Tables}

/-- A tracking row is gone when it was expired. -/
theorem tracking_purged_iff {row : TrackingRow} (here : row ∈ tables.tracking.rows) :
    row.id ∉ (tables.purged cutoff).tracking.keys ↔ row.timestamp < cutoff := by
  have keys : (tables.purged cutoff).tracking.keys =
      (tables.tracking.delete (tables.expiredTrackingIds cutoff)).keys :=
    @Table.keys_update _ _ _ _ (TrackingRow.detach (tables.expiredPersonIds cutoff)) fun _ => rfl
  rw [keys]
  refine (not_congr (Table.key_mem_delete_select here)).trans ?_
  simp

theorem fire_purged_iff {row : FireRow} (here : row ∈ tables.fire.rows) :
    row.id ∉ (tables.purged cutoff).fire.keys ↔ row.timestamp < cutoff := by
  refine (not_congr (Table.key_mem_delete_select here)).trans ?_
  simp

/-- A person is gone when it was expired. -/
theorem mem_persons_purged {id : Uuid} :
    id ∈ (tables.purged cutoff).persons.keys ↔
      id ∈ tables.persons.keys ∧ id ∉ tables.expiredPersonIds cutoff := Table.mem_keys_delete

/-- After the purge an object is referred to by the rows that are not expired. -/
theorem refersTo_purged_iff {object : ObjectRef} :
    (tables.purged cutoff).RefersTo settings object ↔ tables.CropKept settings cutoff object := by
  rw [Tables.RefersTo, Tables.CropKept, Tables.rows_tracking_purged, Tables.rows_fire_purged]
  simp only [List.mem_map, Table.mem_select, Bool.not_eq_true', decide_eq_false_iff_not, not_lt,
    and_assoc]
  refine or_congr_left ⟨?_, ?_⟩
  · rintro ⟨_, ⟨row, here, recent, rfl⟩, leads⟩
    exact ⟨row, here, recent, leads⟩
  · rintro ⟨row, here, recent, leads⟩
    exact ⟨_, ⟨row, here, recent, rfl⟩, leads⟩

end Gone

/-! ## The run -/

section Run

variable {failures : Failures} {engine : Engine} {settings : Settings} {cutoff : Instant}
  {stores : Stores}

/-- Stores that lose nothing have no orphans. -/
theorem noOrphans_opened : NoOrphans settings stores stores.opened where
  persons _ here gone := absurd (List.mem_map_of_mem here) gone
  tracking _ here gone := absurd (List.mem_map_of_mem here) gone
  fire _ here gone := absurd (List.mem_map_of_mem here) gone
  vectors _ _ was gone := absurd was gone
  objects _ was gone := absurd was gone

/-- When the tables stay, so must the rest. -/
theorem noOrphans_swept_iff :
    NoOrphans settings stores (stores.swept failures engine settings cutoff) ↔
      NothingSwept failures settings cutoff stores := by
  constructor
  · intro noOrphans
    refine ⟨fun point id taken was => ?_, fun object swept was => ?_⟩
    · exact noOrphans.vectors point id was fun kept => (holds_swept_iff.mp kept).2 taken
    · obtain ⟨path, expired, rfl⟩ := exists_crop_of_swept swept
      refine noOrphans.objects _ was ?_ (refersTo_of_expired expired)
      rw [mem_objects_swept]
      exact fun kept => kept.2 swept
  · intro nothing
    refine ⟨fun _ here gone => absurd (List.mem_map_of_mem here) gone,
      fun _ here gone => absurd (List.mem_map_of_mem here) gone,
      fun _ here gone => absurd (List.mem_map_of_mem here) gone, fun point id was gone => ?_,
      fun object was gone => ?_⟩
    · have taken : stores.SweepsPoint failures cutoff point := by
        by_contra kept
        exact gone (holds_swept_iff.mpr ⟨was, kept⟩)
      exact nothing.vectors point id taken was
    · rw [mem_objects_swept, not_and, not_not] at gone
      exact absurd was (nothing.objects object (gone was))

/-- Without orphans, what belonged to the purged rows is gone, and nothing else. -/
theorem allSwept_of_noOrphans
    (noOrphans : NoOrphans settings stores ((stores.swept failures engine settings cutoff).setTables
      (stores.tables.purged cutoff))) : AllSwept failures settings cutoff stores := by
  refine ⟨fun id expired point was => ?_, fun point id taken was here => ?_,
    fun path expired was => ?_, fun object swept was kept => ?_⟩
  · obtain ⟨person, selected, rfl⟩ := List.mem_map.mp expired
    have gone := noOrphans.persons person (Table.mem_select.mp selected).1
      (fun kept => (mem_persons_purged.mp kept).2 expired) point
    by_contra kept
    have still : (stores.swept failures engine settings cutoff).qdrant.Holds point person.id :=
      holds_swept_iff.mpr ⟨was, kept⟩
    exact gone still
  · have lost : ¬ (stores.swept failures engine settings cutoff).qdrant.Holds point id :=
      fun kept => (holds_swept_iff.mp kept).2 taken
    by_contra kept
    exact noOrphans.vectors point id was lost (mem_persons_purged.mpr ⟨here, kept⟩)
  · by_contra notSwept
    have still : settings.cropObject path ∈
        (stores.swept failures engine settings cutoff).minio.objects :=
      mem_objects_swept.mpr ⟨was, notSwept⟩
    -- the crop belongs to an expired tracking row or to an expired fire row
    obtain ⟨found, some⟩ := Tables.mem_expiredCrops.mp expired
    rcases found with ⟨row, here, old, carries⟩ | ⟨row, here, old, carries⟩
    · exact noOrphans.tracking row here ((tracking_purged_iff here).mpr old) _
        ⟨path, carries, some, rfl⟩ still
    · exact noOrphans.fire row here ((fire_purged_iff here).mpr old) _
        ⟨path, carries, some, rfl⟩ still
  · have gone : object ∉ (stores.swept failures engine settings cutoff).minio.objects :=
      fun still => (mem_objects_swept.mp still).2 swept
    exact noOrphans.objects object was gone (refersTo_purged_iff.mpr kept)

/-- When everything is swept, the crop of an expired row is gone. -/
theorem notMem_objects_of_allSwept (all : AllSwept failures settings cutoff stores)
    {cropPath : Option String} {object : ObjectRef} (leads : settings.CropAt cropPath object)
    (expired : ∀ path, cropPath = some path → stores.tables.CropExpired cutoff path) :
    object ∉ (stores.swept failures engine settings cutoff).minio.objects := by
  obtain ⟨path, carries, some, rfl⟩ := leads
  intro still
  obtain ⟨was, notSwept⟩ := mem_objects_swept.mp still
  exact notSwept (all.objects path (Tables.mem_expiredCrops.mpr ⟨expired path carries, some⟩) was)

/-- When everything is swept, the purged rows leave no orphans. -/
theorem noOrphans_of_allSwept (all : AllSwept failures settings cutoff stores) :
    NoOrphans settings stores ((stores.swept failures engine settings cutoff).setTables
      (stores.tables.purged cutoff)) := by
  have crops : ∀ {cropPath : Option String} {object : ObjectRef},
      settings.CropAt cropPath object →
      (∀ path, cropPath = some path → stores.tables.CropExpired cutoff path) →
      object ∉ (stores.swept failures engine settings cutoff).minio.objects :=
    fun leads expired => notMem_objects_of_allSwept all leads expired
  refine ⟨fun person here gone point holds => ?_, fun row here gone object leads => ?_,
    fun row here gone object leads => ?_, fun point id was gone here => ?_,
    fun object was gone => ?_⟩
  · have expired : person.id ∈ stores.tables.expiredPersonIds cutoff := by
      by_contra kept
      exact gone (mem_persons_purged.mpr ⟨List.mem_map_of_mem here, kept⟩)
    obtain ⟨was, kept⟩ := holds_swept_iff.mp
      (show (stores.swept failures engine settings cutoff).qdrant.Holds point person.id from holds)
    exact kept (all.vectors person.id expired point was)
  · exact crops leads fun path carries =>
      Or.inl ⟨row, here, (tracking_purged_iff here).mp gone, carries⟩
  · exact crops leads fun path carries =>
      Or.inr ⟨row, here, (fire_purged_iff here).mp gone, carries⟩
  · obtain ⟨there, kept⟩ := mem_persons_purged.mp here
    have taken : stores.SweepsPoint failures cutoff point := by
      by_contra untaken
      have still : (stores.swept failures engine settings cutoff).qdrant.Holds point id :=
        holds_swept_iff.mpr ⟨was, untaken⟩
      exact gone still
    exact kept (all.spared point id taken was there)
  · have swept : object ∈ stores.sweptObjects failures settings cutoff := by
      by_contra notSwept
      have still : object ∈ (stores.swept failures engine settings cutoff).minio.objects :=
        mem_objects_swept.mpr ⟨was, notSwept⟩
      exact gone still
    exact fun refers => all.unshared object swept was (refersTo_purged_iff.mp refers)

/-- When the rows go, what belongs to them must go, and nothing else. -/
theorem noOrphans_purged_iff :
    NoOrphans settings stores ((stores.swept failures engine settings cutoff).setTables
        (stores.tables.purged cutoff)) ↔
      AllSwept failures settings cutoff stores :=
  ⟨allSwept_of_noOrphans, noOrphans_of_allSwept⟩

end Run

/-- **When a run leaves no orphans**: exactly when a selection fails, when a failure of
PostgreSQL comes after nothing of a row was removed, or when everything goes that
belongs to the deleted rows and to no other. -/
theorem noOrphans_iff (settings : Settings) (now : Instant) (failures : Failures) (engine : Engine)
    (stores : Stores) :
    NoOrphans settings stores
        (Fallible.exec (Stores.handler failures engine) (executeCleanupJob settings now) stores).2 ↔
      (¬ SelectionFails failures (settings.retentionCutoff now) →
        (DeletionFails failures stores.tables (settings.retentionCutoff now) →
          NothingSwept failures settings (settings.retentionCutoff now) stores) ∧
        (¬ DeletionFails failures stores.tables (settings.retentionCutoff now) →
          AllSwept failures settings (settings.retentionCutoff now) stores)) := by
  by_cases unselected : SelectionFails failures (settings.retentionCutoff now)
  · obtain ⟨error, outcome⟩ := @executeCleanupJob_of_selectionFails failures engine settings now
      stores unselected
    rw [outcome]
    exact iff_of_true noOrphans_opened fun selected => absurd unselected selected
  by_cases fails : DeletionFails failures stores.tables (settings.retentionCutoff now)
  · obtain ⟨error, outcome⟩ := @executeCleanupJob_of_deletionFails failures engine settings now
      stores unselected fails
    rw [outcome, noOrphans_swept_iff]
    exact ⟨fun nothing _ => ⟨fun _ => nothing, fun succeeds => absurd fails succeeds⟩,
      fun holds => (holds unselected).1 fails⟩
  · rw [executeCleanupJob_of_committed unselected fails, noOrphans_purged_iff]
    exact ⟨fun all _ => ⟨fun failed => absurd failed fails, fun _ => all⟩,
      fun holds => (holds unselected).2 fails⟩

/-- Qdrant refuses to delete. -/
def qdrantFails : Failures where
  raises
    | .qdrant (.delete _ _) => true
    | _ => false
  removals _ := false

/-- The commit fails. -/
def commitFails : Failures where
  raises
    | .commit => true
    | _ => false
  removals _ := false

/-- Stores in which the gallery has indexed person 1 under a number. -/
def galleryStores : Stores :=
  exampleStores.setQdrant (Qdrant.empty.put Qdrant.present_empty (exampleUuid 1)
    { vectorOf 1 with id := .int 1 })

/-- **Orphans of three kinds**: a vector whose person is gone when Qdrant refuses to
delete, a row whose crop is gone when the commit fails, and a vector under a number
whose person is gone when nothing fails. -/
theorem orphans_left :
    ¬ NoOrphans exampleSettings exampleStores
        (Fallible.exec (Stores.handler qdrantFails Engine.silent)
          (executeCleanupJob exampleSettings exampleNow) exampleStores).2 ∧
      ¬ NoOrphans exampleSettings exampleStores
        (Fallible.exec (Stores.handler commitFails Engine.silent)
          (executeCleanupJob exampleSettings exampleNow) exampleStores).2 ∧
      ¬ NoOrphans exampleSettings galleryStores
        (Fallible.exec (Stores.handler .never Engine.silent)
          (executeCleanupJob exampleSettings exampleNow) galleryStores).2 := by
  refine ⟨?_, ?_, ?_⟩
  · have selected : ¬ SelectionFails qdrantFails (exampleSettings.retentionCutoff exampleNow) := by
      simp [SelectionFails, qdrantFails]
    have succeeds : ¬ DeletionFails qdrantFails exampleStores.tables
        (exampleSettings.retentionCutoff exampleNow) := by simp [DeletionFails, qdrantFails]
    rw [executeCleanupJob_of_committed selected succeeds, noOrphans_purged_iff]
    intro all
    have swept := all.vectors (exampleUuid 1) (by decide +kernel) (.str (exampleUuid 1).toText)
      ⟨_, rfl, rfl⟩
    exact swept.1 (Or.inr (Or.inr rfl))
  · have selected : ¬ SelectionFails commitFails (exampleSettings.retentionCutoff exampleNow) := by
      simp [SelectionFails, commitFails]
    have fails : DeletionFails commitFails exampleStores.tables
        (exampleSettings.retentionCutoff exampleNow) := by simp [DeletionFails, commitFails]
    obtain ⟨error, outcome⟩ := @executeCleanupJob_of_deletionFails commitFails Engine.silent
      exampleSettings exampleNow exampleStores selected fails
    rw [outcome, noOrphans_swept_iff]
    intro nothing
    have swept : (exampleCrop 11).object ∈ exampleStores.sweptObjects commitFails exampleSettings
      (exampleSettings.retentionCutoff exampleNow) := by decide +kernel
    exact nothing.objects _ swept (by decide +kernel)
  · rw [executeCleanupJob_of_committed (not_selectionFails_never _) (not_deletionFails_never _ _),
      noOrphans_purged_iff]
    intro all
    obtain ⟨-, id, -, wrong⟩ := all.vectors (exampleUuid 1) (by decide +kernel) (.int 1)
      ⟨_, rfl, rfl⟩
    cases wrong

end PersonTracking.Scheduler
