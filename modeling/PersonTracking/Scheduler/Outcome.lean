import PersonTracking.Scheduler.Cleanup

/-!
# What a run of the retention job leaves behind

The outcome of each part of `execute_cleanup_job` against the stores, and of the
whole job: nothing when a selection fails, swept object and vector stores with
the tables untouched when a statement or the commit fails, and otherwise swept
stores and purged tables.
-/

namespace PersonTracking.Scheduler

open Library Python Shared

/-! ## What the job looks for -/

namespace Tables

def expiredTracking (tables : Tables) (cutoff : Instant) : List TrackingRow :=
  tables.tracking.select fun row => row.timestamp < cutoff

def expiredFire (tables : Tables) (cutoff : Instant) : List FireRow :=
  tables.fire.select fun row => row.timestamp < cutoff

def expiredPersons (tables : Tables) (cutoff : Instant) : List PersonRow :=
  tables.persons.select fun row => row.lastSeen < cutoff

def expiredAlerts (tables : Tables) (cutoff : Instant) : List AlertRow :=
  tables.alerts.select fun row => row.timestamp < cutoff

def expiredTrackingIds (tables : Tables) (cutoff : Instant) : List Uuid :=
  (tables.expiredTracking cutoff).map TrackingRow.id

def expiredFireIds (tables : Tables) (cutoff : Instant) : List Uuid :=
  (tables.expiredFire cutoff).map FireRow.id

def expiredPersonIds (tables : Tables) (cutoff : Instant) : List Uuid :=
  (tables.expiredPersons cutoff).map PersonRow.id

def expiredAlertIds (tables : Tables) (cutoff : Instant) : List Uuid :=
  (tables.expiredAlerts cutoff).map AlertRow.id

/-- The crop paths of the expired rows. -/
def expiredCrops (tables : Tables) (cutoff : Instant) : List String :=
  truthy ((tables.expiredTracking cutoff).map TrackingRow.cropPath) ++
    truthy ((tables.expiredFire cutoff).map FireRow.cropPath)

/-- The tables without what is expired. -/
def purged (tables : Tables) (cutoff : Instant) : Tables :=
  (((tables.deleteTracking (tables.expiredTrackingIds cutoff)).deleteFire
    (tables.expiredFireIds cutoff)).deleteAlerts (tables.expiredAlertIds cutoff)).deletePersons
      (tables.expiredPersonIds cutoff)

end Tables

/-- A selection fails. -/
def SelectionFails (failures : Failures) (cutoff : Instant) : Prop :=
  failures.raises (.selectTracking cutoff) = true ∨ failures.raises (.selectFire cutoff) = true ∨
    failures.raises (.selectPersons cutoff) = true

/-- A deletion of rows or the commit fails; a table without expired rows is not touched. -/
def DeletionFails (failures : Failures) (tables : Tables) (cutoff : Instant) : Prop :=
  (tables.expiredTrackingIds cutoff ≠ [] ∧
      failures.raises (.deleteTracking (tables.expiredTrackingIds cutoff)) = true) ∨
    (tables.expiredFireIds cutoff ≠ [] ∧
      failures.raises (.deleteFire (tables.expiredFireIds cutoff)) = true) ∨
    failures.raises (.deleteAlerts cutoff) = true ∨
    (tables.expiredPersonIds cutoff ≠ [] ∧
      failures.raises (.deletePersons (tables.expiredPersonIds cutoff)) = true) ∨
    failures.raises .commit = true

instance (failures : Failures) (cutoff : Instant) : Decidable (SelectionFails failures cutoff) :=
  inferInstanceAs (Decidable (_ ∨ _))

instance (failures : Failures) (tables : Tables) (cutoff : Instant) :
    Decidable (DeletionFails failures tables cutoff) :=
  inferInstanceAs (Decidable (_ ∨ _))

/-- Qdrant after the deletion of vectors, done or failed. -/
def forgotten (failures : Failures) (engine : Engine) (ids : List Uuid)
    (qdrant : Qdrant) : Qdrant :=
  if ids = [] then qdrant
  else (Fallible.exec (Qdrant.handler failures.qdrant engine)
    (QdrantVectorStore.deleteEmbeddings ids) qdrant).2

/-- The stores after the deletions that PostgreSQL knows nothing of. -/
def Stores.swept (stores : Stores) (failures : Failures) (engine : Engine) (settings : Settings)
    (cutoff : Instant) : Stores :=
  (stores.opened.setQdrant (forgotten failures engine (stores.tables.expiredPersonIds cutoff)
    stores.opened.qdrant)).setMinio
      (Minio.removeEach failures.removals
        ((stores.tables.expiredCrops cutoff).map settings.cropObject) stores.minio)

/-! ## The parts -/

section Parts

variable {failures : Failures} {engine : Engine} {stores : Stores}

theorem exec_deleteVectors (ids : List Uuid) :
    Fallible.exec (Stores.handler failures engine) (deleteVectors ids) stores =
      (.ok (), stores.setQdrant (forgotten failures engine ids stores.qdrant)) := by
  rw [deleteVectors, forgotten]
  split
  · rfl
  · rw [Fallible.exec_swallow, Fallible.exec_relabel]
    have focused := Program.run_focus Stores.qdrant Stores.setQdrant
      (Qdrant.handler failures.qdrant engine) (fun _ _ => rfl) (fun _ _ _ => rfl) (fun _ => rfl)
      (QdrantVectorStore.deleteEmbeddings ids).run stores
    exact congrArg (fun outcome => (Except.ok (), outcome.2)) focused

theorem exec_deleteCrops (settings : Settings) (cropPaths : List String) :
    Fallible.exec (Stores.handler failures engine) (deleteCrops settings cropPaths) stores =
      (.ok (), stores.setMinio (Minio.removeEach failures.removals
        (cropPaths.map settings.cropObject) stores.minio)) := by
  induction cropPaths generalizing stores with
  | nil => rfl
  | cons cropPath rest ih =>
      have deleted : Fallible.exec (Stores.handler failures engine)
          (Fallible.swallow (Fallible.relabel Call.minio (MinioStorageClient.deleteObject
            (settings.cropObject cropPath).bucket (settings.cropObject cropPath).name)) : Job Unit)
          stores =
        (.ok (), stores.setMinio (if failures.removals stores.minio.asked then stores.minio.count
          else (stores.minio.remove (settings.cropObject cropPath)).count)) := by
        rw [Fallible.exec_swallow, Fallible.exec_relabel, ← Minio.run_deleteObject]
        exact congrArg (fun outcome => (Except.ok (), outcome.2))
          (Program.run_focus Stores.minio Stores.setMinio (Minio.handler failures.removals)
            (fun _ _ => rfl) (fun _ _ _ => rfl) (fun _ => rfl) (MinioStorageClient.deleteObject
              (settings.cropObject cropPath).bucket (settings.cropObject cropPath).name).run stores)
      rw [deleteCrops]
      exact (Fallible.exec_bind_ok deleted).trans ih

/-- What a statement of the session may leave: nothing but a new view of the tables. -/
def Sends (stores : Stores) (tables : Tables) (after : Stores) : Prop :=
  after.cleared = stores.cleared ∧ after.view = tables

theorem sends_collect (delete : Delete) :
    Sends stores (stores.view.apply delete) (stores.collect delete) := by
  refine ⟨rfl, ?_⟩
  rw [Stores.view, Stores.collect, Tables.applyAll, List.foldl_append]
  rfl

/-- A deletion that is skipped when there is nothing to delete. -/
theorem exec_unlessEmpty {request : Call} {statement : Job Unit} {ids : List Uuid}
    {delete : Delete} (outcome : Fallible.exec (Stores.handler failures engine) statement stores =
      unlessRaised (failures.raises request) stores ((), stores.collect delete))
    (nothing : ids = [] → stores.view.apply delete = stores.view) :
    ((ids ≠ [] ∧ failures.raises request = true) ∧
      Fallible.exec (Stores.handler failures engine) (unlessEmpty ids statement) stores =
        (.error .sqlError, stores)) ∨
    (¬ (ids ≠ [] ∧ failures.raises request = true) ∧ ∃ after,
      Fallible.exec (Stores.handler failures engine) (unlessEmpty ids statement) stores =
        (.ok (), after) ∧ Sends stores (stores.view.apply delete) after) := by
  rw [unlessEmpty]
  by_cases none : ids = []
  · rw [if_pos none]
    exact Or.inr ⟨fun fails => fails.1 none, stores, rfl, rfl, (nothing none).symm⟩
  · rw [if_neg none, outcome, unlessRaised]
    by_cases raised : failures.raises request = true
    · exact Or.inl ⟨⟨none, raised⟩, if_pos raised⟩
    · exact Or.inr ⟨fun fails => raised fails.2, _, if_neg raised, sends_collect delete⟩

/-- The deletion of alerts is always made, and looks at the alerts itself. -/
theorem exec_deleteAlerts (cutoff : Instant) :
    (failures.raises (.deleteAlerts cutoff) = true ∧
      Fallible.exec (Stores.handler failures engine)
        (Fallible.attempt (ask (.deleteAlerts cutoff))) stores = (.error .sqlError, stores)) ∨
    (failures.raises (.deleteAlerts cutoff) = false ∧ ∃ rowcount after,
      Fallible.exec (Stores.handler failures engine)
        (Fallible.attempt (ask (.deleteAlerts cutoff))) stores = (.ok rowcount, after) ∧
      Sends stores (stores.view.deleteAlerts (stores.view.expiredAlertIds cutoff)) after) := by
  have outcome : Fallible.exec (Stores.handler failures engine)
      (Fallible.attempt (ask (.deleteAlerts cutoff))) stores =
    unlessRaised (failures.raises (.deleteAlerts cutoff)) stores
      ((stores.view.expiredAlertIds cutoff).length,
        stores.collect (.alerts (stores.view.expiredAlertIds cutoff))) := rfl
  rw [outcome, unlessRaised]
  cases raised : failures.raises (.deleteAlerts cutoff) with
  | true => exact Or.inl ⟨rfl, rfl⟩
  | false => exact Or.inr ⟨rfl, _, _, rfl, sends_collect _⟩

/-- **The rows go together or not at all.** -/
theorem exec_deleteRows (blank : stores.session = []) (cutoff : Instant) :
    (DeletionFails failures stores.tables cutoff ∧ ∃ after,
      Fallible.exec (Stores.handler failures engine)
        (deleteRows cutoff (stores.tables.expiredTrackingIds cutoff)
          (stores.tables.expiredFireIds cutoff) (stores.tables.expiredPersonIds cutoff)) stores =
        (.error .sqlError, after) ∧ after.cleared = stores.cleared) ∨
    (¬ DeletionFails failures stores.tables cutoff ∧
      Fallible.exec (Stores.handler failures engine)
        (deleteRows cutoff (stores.tables.expiredTrackingIds cutoff)
          (stores.tables.expiredFireIds cutoff) (stores.tables.expiredPersonIds cutoff)) stores =
        (.ok (), stores.cleared.setTables (stores.tables.purged cutoff))) := by
  have sees : stores.view = stores.tables := by rw [Stores.view, blank]; rfl
  rw [deleteRows, DeletionFails]
  -- tracking events
  rcases @exec_unlessEmpty failures engine stores
    (.deleteTracking (stores.tables.expiredTrackingIds cutoff))
    (Fallible.attempt (ask (.deleteTracking (stores.tables.expiredTrackingIds cutoff))))
    (stores.tables.expiredTrackingIds cutoff)
    (.tracking (stores.tables.expiredTrackingIds cutoff)) rfl
    (fun none => by rw [none]; exact Tables.deleteTracking_nil _) with
    ⟨fails, raised⟩ | ⟨sent₁, first, done₁, kept₁, view₁⟩
  · exact Or.inl ⟨Or.inl fails, _, Fallible.exec_bind_error raised, rfl⟩
  rw [Fallible.exec_bind_ok done₁]
  -- fire events
  rcases @exec_unlessEmpty failures engine first
    (.deleteFire (stores.tables.expiredFireIds cutoff))
    (Fallible.attempt (ask (.deleteFire (stores.tables.expiredFireIds cutoff))))
    (stores.tables.expiredFireIds cutoff) (.fire (stores.tables.expiredFireIds cutoff)) rfl
    (fun none => by rw [none]; exact Tables.deleteFire_nil _) with
    ⟨fails, raised⟩ | ⟨sent₂, second, done₂, kept₂, view₂⟩
  · exact Or.inl ⟨Or.inr (Or.inl fails), _, Fallible.exec_bind_error raised, kept₁⟩
  rw [Fallible.exec_bind_ok done₂]
  -- alerts
  rcases @exec_deleteAlerts failures engine second cutoff with
    ⟨fails, raised⟩ | ⟨sent₃, rowcount, third, done₃, kept₃, view₃⟩
  · exact Or.inl ⟨Or.inr (Or.inr (Or.inl fails)), _, Fallible.exec_bind_error raised,
      kept₂.trans kept₁⟩
  rw [Fallible.exec_bind_ok done₃]
  -- persons
  rcases @exec_unlessEmpty failures engine third
    (.deletePersons (stores.tables.expiredPersonIds cutoff))
    (Fallible.attempt (ask (.deletePersons (stores.tables.expiredPersonIds cutoff))))
    (stores.tables.expiredPersonIds cutoff) (.persons (stores.tables.expiredPersonIds cutoff)) rfl
    (fun none => by rw [none]; exact Tables.deletePersons_nil _) with
    ⟨fails, raised⟩ | ⟨sent₄, fourth, done₄, kept₄, view₄⟩
  · exact Or.inl ⟨Or.inr (Or.inr (Or.inr (Or.inl fails))), _, Fallible.exec_bind_error raised,
      kept₃.trans (kept₂.trans kept₁)⟩
  rw [Fallible.exec_bind_ok done₄]
  have kept : fourth.cleared = stores.cleared := kept₄.trans (kept₃.trans (kept₂.trans kept₁))
  have purged : fourth.view = stores.tables.purged cutoff := by
    rw [view₄, view₃, view₂, view₁, sees]
    rfl
  show (_ ∧ ∃ after, unlessRaised (failures.raises .commit) fourth ((), fourth.committed) = _ ∧ _) ∨
    (_ ∧ unlessRaised (failures.raises .commit) fourth ((), fourth.committed) = _)
  rw [unlessRaised]
  by_cases raised : failures.raises .commit = true
  · refine Or.inl ⟨Or.inr (Or.inr (Or.inr (Or.inr raised))), fourth, if_pos raised, kept⟩
  · refine Or.inr ⟨?_, ?_⟩
    · simp [sent₁, sent₂, sent₃, sent₄, raised]
    · rw [if_neg raised, Stores.committed, purged]
      exact congrArg (fun after : Stores =>
        (Except.ok (), after.setTables (stores.tables.purged cutoff))) kept

/-- The crops the job finds in the rows it has selected. -/
theorem crops_of_selected (tables : Tables) (cutoff : Instant) :
    (truthy (((tables.expiredTracking cutoff).map fun row =>
        (row.id, row.personId, row.cropPath)).map fun row => row.2.2) ++
      truthy (((tables.expiredFire cutoff).map fun row => (row.id, row.cropPath)).map
        fun row => row.2)) = tables.expiredCrops cutoff := by
  rw [List.map_map, List.map_map]
  rfl

section Selections

variable (blank : stores.session = []) (cutoff : Instant)

include blank

/-- A session that has deleted nothing reads the committed tables. -/
theorem view_of_blank : stores.view = stores.tables := by
  rw [Stores.view, blank]
  rfl

theorem exec_selectTracking :
    Fallible.exec (Stores.handler failures engine)
        (Fallible.attempt (ask (.selectTracking cutoff))) stores =
      unlessRaised (failures.raises (.selectTracking cutoff)) stores
        ((stores.tables.expiredTracking cutoff).map
          fun row => (row.id, row.personId, row.cropPath), stores) := by
  rw [← view_of_blank blank]
  rfl

theorem exec_selectFire :
    Fallible.exec (Stores.handler failures engine)
        (Fallible.attempt (ask (.selectFire cutoff))) stores =
      unlessRaised (failures.raises (.selectFire cutoff)) stores
        ((stores.tables.expiredFire cutoff).map fun row => (row.id, row.cropPath), stores) := by
  rw [← view_of_blank blank]
  rfl

theorem exec_selectPersons :
    Fallible.exec (Stores.handler failures engine)
        (Fallible.attempt (ask (.selectPersons cutoff))) stores =
      unlessRaised (failures.raises (.selectPersons cutoff)) stores
        (stores.tables.expiredPersonIds cutoff, stores) := by
  rw [← view_of_blank blank]
  rfl

/-- A failing selection ends the job before it has changed anything. -/
theorem exec_cleanUp_of_selectionFails (settings : Settings)
    (fails : SelectionFails failures cutoff) :
    Fallible.exec (Stores.handler failures engine) (cleanUp settings cutoff) stores =
      (.error .sqlError, stores) := by
  have tracking := @exec_selectTracking failures engine stores blank cutoff
  have fire := @exec_selectFire failures engine stores blank cutoff
  have persons := @exec_selectPersons failures engine stores blank cutoff
  rw [unlessRaised] at tracking fire persons
  rw [cleanUp]
  by_cases first : failures.raises (.selectTracking cutoff) = true
  · rw [if_pos first] at tracking
    rw [Fallible.exec_bind_error tracking]
  · rw [if_neg first] at tracking
    rw [Fallible.exec_bind_ok tracking]
    by_cases second : failures.raises (.selectFire cutoff) = true
    · rw [if_pos second] at fire
      rw [Fallible.exec_bind_error fire]
    · rw [if_neg second] at fire
      rw [if_pos ((fails.resolve_left first).resolve_left second)] at persons
      rw [Fallible.exec_bind_ok fire, Fallible.exec_bind_error persons]

/-- When the selections succeed, the object and the vector store are swept, and
the rows are deleted or not. -/
theorem exec_cleanUp_of_selected (settings : Settings)
    (selected : ¬ SelectionFails failures cutoff) :
    Fallible.exec (Stores.handler failures engine) (cleanUp settings cutoff) stores =
      Fallible.exec (Stores.handler failures engine)
        (deleteRows cutoff (stores.tables.expiredTrackingIds cutoff)
          (stores.tables.expiredFireIds cutoff) (stores.tables.expiredPersonIds cutoff))
        ((stores.setQdrant (forgotten failures engine (stores.tables.expiredPersonIds cutoff)
          stores.qdrant)).setMinio (Minio.removeEach failures.removals
            ((stores.tables.expiredCrops cutoff).map settings.cropObject) stores.minio)) := by
  obtain ⟨first, others⟩ := not_or.mp selected
  obtain ⟨second, third⟩ := not_or.mp others
  have tracking := @exec_selectTracking failures engine stores blank cutoff
  have fire := @exec_selectFire failures engine stores blank cutoff
  have persons := @exec_selectPersons failures engine stores blank cutoff
  rw [unlessRaised, if_neg first] at tracking
  rw [unlessRaised, if_neg second] at fire
  rw [unlessRaised, if_neg third] at persons
  rw [cleanUp, Fallible.exec_bind_ok tracking, Fallible.exec_bind_ok fire,
    Fallible.exec_bind_ok persons, Fallible.exec_bind_ok (exec_deleteVectors _),
    Fallible.exec_bind_ok (exec_deleteCrops settings _), crops_of_selected, List.map_map,
    List.map_map]
  rfl

end Selections

theorem exec_inSession_ok {body : Job Unit} {after : Stores}
    (done : Fallible.exec (Stores.handler failures engine) body stores = (.ok (), after)) :
    Fallible.exec (Stores.handler failures engine) (inSession body) stores =
      (.ok (), after.cleared) := by
  have guarded : Fallible.exec (Stores.handler failures engine) (tryCatch
      (tryCatch body fun error => do
        Fallible.attempt (ask .rollback)
        throw error)
      fun error => do
        Fallible.lift (ask .close)
        throw error) stores = (.ok (), after) := by
    rw [Fallible.exec_tryCatch, Fallible.exec_tryCatch, done]
  rw [inSession, Fallible.exec_bind_ok guarded]
  rfl

/-- An exception rolls the session back, and leaves the job, maybe as another one. -/
theorem exec_inSession_error {body : Job Unit} {error : PyError} {after : Stores}
    (raised : Fallible.exec (Stores.handler failures engine) body stores = (.error error, after)) :
    ∃ other, Fallible.exec (Stores.handler failures engine) (inSession body) stores =
      (.error other, after.cleared) := by
  have rolledBack : ∃ other, Fallible.exec (Stores.handler failures engine) (do
      Fallible.attempt (ask .rollback)
      throw error : Job Unit) after = (.error other, after.cleared) := by
    have outcome : Fallible.exec (Stores.handler failures engine)
        (Fallible.attempt (ask .rollback)) after =
      (if failures.raises .rollback then .error .sqlError else .ok (), after.cleared) := rfl
    by_cases fails : failures.raises .rollback = true
    · rw [if_pos fails] at outcome
      exact ⟨_, Fallible.exec_bind_error outcome⟩
    · rw [if_neg fails] at outcome
      exact ⟨_, Fallible.exec_bind_ok outcome⟩
  obtain ⟨other, rolledBack⟩ := rolledBack
  have guarded : Fallible.exec (Stores.handler failures engine) (tryCatch
      (tryCatch body fun error => do
        Fallible.attempt (ask .rollback)
        throw error)
      fun error => do
        Fallible.lift (ask .close)
        throw error) stores = (.error other, after.cleared) := by
    rw [Fallible.exec_tryCatch, Fallible.exec_tryCatch, raised]
    dsimp only
    rw [rolledBack]
    rfl
  exact ⟨other, by rw [inSession, Fallible.exec_bind_error guarded]⟩

end Parts

/-! ## What is purged and what is swept -/

namespace Tables

variable (tables : Tables) (cutoff : Instant)

/-- Tracking rows that are not expired stay, without references to expired persons. -/
theorem rows_tracking_purged :
    (tables.purged cutoff).tracking.rows =
      (tables.tracking.select fun row => !decide (row.timestamp < cutoff)).map
        (TrackingRow.detach (tables.expiredPersonIds cutoff)) := by
  rw [← Table.rows_delete_select]
  rfl

theorem rows_fire_purged :
    (tables.purged cutoff).fire.rows =
      tables.fire.select fun row => !decide (row.timestamp < cutoff) :=
  Table.rows_delete_select tables.fire _

theorem rows_persons_purged :
    (tables.purged cutoff).persons.rows =
      tables.persons.select fun row => !decide (row.lastSeen < cutoff) :=
  Table.rows_delete_select tables.persons _

end Tables

/-- The deletion of vectors fails: at the check of the collection, or at the call itself. -/
def ForgettingFails (failures : Failures) (qdrant : Qdrant) (ids : List Uuid) : Prop :=
  failures.qdrant.raises .getCollections = true ∨
    (¬ qdrant.Present ∧
      failures.qdrant.raises (.createCollection QdrantVectorStore.collectionName) = true) ∨
    failures.qdrant.raises
      (.delete QdrantVectorStore.collectionName (ids.map fun id => .str id.toText)) = true

instance (failures : Failures) (qdrant : Qdrant) (ids : List Uuid) :
    Decidable (ForgettingFails failures qdrant ids) := inferInstanceAs (Decidable (_ ∨ _))

/-- **Either all vectors of the given persons are gone, or none is.** -/
theorem points_forgotten (failures : Failures) (engine : Engine) {qdrant : Qdrant}
    (unchecked : qdrant.checked = false) (ids : List Uuid) (point : PointId) :
    (forgotten failures engine ids qdrant).points point =
      if ¬ ForgettingFails failures qdrant ids ∧ ∃ id ∈ ids, PointId.str id.toText = point then none
      else qdrant.points point := by
  rw [forgotten]
  by_cases none : ids = []
  · rw [if_pos none, if_neg]
    rintro ⟨-, id, member, -⟩
    rw [none] at member
    cases member
  -- the check comes first, then one deletion for all persons
  rw [if_neg none, Qdrant.exec_deleteEmbeddings]
  cases checked : Qdrant.ensured failures.qdrant qdrant with
  | none =>
      have fails := (Qdrant.ensured_eq_none_iff unchecked).mp checked
      rw [if_neg]
      · exact congrFun (Qdrant.points_halted _ _) point
      · rintro ⟨succeeds, -⟩
        exact succeeds (fails.imp_right Or.inl)
  | some after =>
      have reached : ¬ (failures.qdrant.raises .getCollections = true ∨ (¬ qdrant.Present ∧
          failures.qdrant.raises (.createCollection QdrantVectorStore.collectionName) = true)) := by
        rw [← Qdrant.ensured_eq_none_iff unchecked, checked]
        exact Option.some_ne_none after
      obtain ⟨listed, created⟩ := not_or.mp reached
      dsimp only
      rw [Program.Faults.carryOut_refusing]
      by_cases raised : failures.raises (.qdrant (.delete QdrantVectorStore.collectionName
          (ids.map fun id => .str id.toText))) = true
      · rw [if_pos raised, if_neg]
        · exact congrFun (Qdrant.ensured_points checked) point
        · rintro ⟨succeeds, -⟩
          exact succeeds (Or.inr (Or.inr raised))
      · have succeeds : ¬ ForgettingFails failures qdrant ids := by
          rintro (fails | fails | fails)
          · exact listed fails
          · exact created fails
          · exact raised fails
        rw [if_neg raised]
        show (if point ∈ ids.map (fun id => PointId.str id.toText) then Option.none
          else after.points point) = _
        rw [Qdrant.ensured_points checked]
        simp only [List.mem_map, succeeds, not_false_eq_true, true_and]

/-! ## The job -/

section Run

variable {failures : Failures} {engine : Engine} {settings : Settings} {now : Instant}
  {stores : Stores}

theorem exec_executeCleanupJob :
    Fallible.exec (Stores.handler failures engine) (executeCleanupJob settings now) stores =
      Fallible.exec (Stores.handler failures engine)
        (inSession (cleanUp settings (settings.retentionCutoff now))) stores.opened := by
  have opened : Fallible.exec (Stores.handler failures engine)
      (Fallible.lift (ask .openClients) : Job Unit) stores = (.ok (), stores.opened) := rfl
  rw [executeCleanupJob, Fallible.exec_bind_ok opened]

/-- **A failing selection**: the job leaves everything as it was. -/
theorem executeCleanupJob_of_selectionFails
    (fails : SelectionFails failures (settings.retentionCutoff now)) :
    ∃ error,
      Fallible.exec (Stores.handler failures engine) (executeCleanupJob settings now) stores =
      (.error error, stores.opened) := by
  rw [exec_executeCleanupJob]
  exact exec_inSession_error (exec_cleanUp_of_selectionFails rfl _ settings fails)

/-- **A failing deletion of rows**: the other stores are swept, the tables are as they were. -/
theorem executeCleanupJob_of_deletionFails
    (selected : ¬ SelectionFails failures (settings.retentionCutoff now))
    (fails : DeletionFails failures stores.tables (settings.retentionCutoff now)) :
    ∃ error,
      Fallible.exec (Stores.handler failures engine) (executeCleanupJob settings now) stores =
      (.error error, stores.swept failures engine settings (settings.retentionCutoff now)) := by
  rw [exec_executeCleanupJob]
  have swept := @exec_cleanUp_of_selected failures engine stores.opened rfl _ settings selected
  rcases @exec_deleteRows failures engine
    (stores.swept failures engine settings (settings.retentionCutoff now)) rfl
    (settings.retentionCutoff now) with ⟨-, after, raised, kept⟩ | ⟨succeeds, -⟩
  · obtain ⟨error, outcome⟩ := exec_inSession_error (swept.trans raised)
    exact ⟨error, outcome.trans (by rw [kept]; rfl)⟩
  · exact absurd fails succeeds

/-- **A run that is committed**: the other stores are swept and the tables purged. -/
theorem executeCleanupJob_of_committed
    (selected : ¬ SelectionFails failures (settings.retentionCutoff now))
    (succeeds : ¬ DeletionFails failures stores.tables (settings.retentionCutoff now)) :
    Fallible.exec (Stores.handler failures engine) (executeCleanupJob settings now) stores =
      (.ok (), (stores.swept failures engine settings (settings.retentionCutoff now)).setTables
        (stores.tables.purged (settings.retentionCutoff now))) := by
  rw [exec_executeCleanupJob]
  have swept := @exec_cleanUp_of_selected failures engine stores.opened rfl _ settings selected
  rcases @exec_deleteRows failures engine
    (stores.swept failures engine settings (settings.retentionCutoff now)) rfl
    (settings.retentionCutoff now) with ⟨fails, -⟩ | ⟨-, done⟩
  · exact absurd fails succeeds
  · exact exec_inSession_ok (swept.trans done)

end Run

end PersonTracking.Scheduler
