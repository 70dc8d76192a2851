import PersonTracking.Library.Transition
import PersonTracking.Scheduler.Orphans

/-!
# Run after run

`run_data_cleanup_job` makes one run of the retention job after the other, logs
what a run raises, and sleeps in between until it is told to stop.  Meanwhile
the other services write.

A run that fails leaves rows whose vectors or crops it may have removed, and a
later run meets them again.  `nothing_leaks` follows what rows have ever referred
to, over the whole life of the loop; `recovers` compares a history of failed
and incomplete runs with the one run that comes last.
-/

namespace PersonTracking.Scheduler

open Library Python Shared

/-! ## The loop -/

/-- One run of the job: when it begins and what fails in it. -/
structure Attempt where
  now : Instant
  failures : Failures
  engine : Engine

namespace Attempt

variable (settings : Settings) (attempt : Attempt)

/-- The cutoff of the run. -/
def cutoff : Instant := settings.retentionCutoff attempt.now

/-- The body of the loop: what the run raises is logged, what it did stays. -/
def run (stores : Stores) : Stores :=
  (Fallible.exec (Stores.handler attempt.failures attempt.engine)
    (executeCleanupJob settings attempt.now) stores).2

/-- The run commits. -/
def Commits (tables : Tables) : Prop :=
  ¬ SelectionFails attempt.failures (attempt.cutoff settings) ∧
    ¬ DeletionFails attempt.failures tables (attempt.cutoff settings)

instance (tables : Tables) : Decidable (attempt.Commits settings tables) :=
  inferInstanceAs (Decidable (_ ∧ _))

/-- MinIO has removed the crops that the run asked it to remove. -/
def RemovesCrops (stores : Stores) : Prop :=
  ∀ path ∈ stores.tables.expiredCrops (attempt.cutoff settings),
    settings.cropObject path ∈ stores.minio.objects →
      settings.cropObject path ∈
        stores.sweptObjects attempt.failures settings (attempt.cutoff settings)

/-- Qdrant and MinIO have removed what the run asked them to remove. -/
structure Thorough (stores : Stores) : Prop where
  vectors : ForgettingFails attempt.failures stores.qdrant
      (stores.tables.expiredPersonIds (attempt.cutoff settings)) →
    ∀ id ∈ stores.tables.expiredPersonIds (attempt.cutoff settings),
      stores.qdrant.points (.str id.toText) = none
  objects : attempt.RemovesCrops settings stores

end Attempt

/-- The task of the service: its flag, the seconds it has still to sleep, and the
stores.  Notes beside them say which objects rows have ever referred to, and who
has ever had a row. -/
structure CleanupLoop where
  keepRunning : Bool
  pause : ℕ
  stores : Stores
  crops : List ObjectRef
  people : List Uuid

/-- What happens: a run, a second of sleep, a write of another service, and the end
of the service, which cancels the task. -/
inductive LoopStep
  | attempt (attempt : Attempt)
  | second
  | write (stores : Stores)
  | shutDown

/-- The objects that rows refer to. -/
def Tables.crops (tables : Tables) (settings : Settings) : List ObjectRef :=
  (truthy (tables.tracking.rows.map TrackingRow.cropPath) ++
    truthy (tables.fire.rows.map FireRow.cropPath)).map settings.cropObject

/-- No row from before the cutoff. -/
structure Tables.Recent (tables : Tables) (cutoff : Instant) : Prop where
  tracking : ∀ row ∈ tables.tracking.rows, cutoff ≤ row.timestamp
  fire : ∀ row ∈ tables.fire.rows, cutoff ≤ row.timestamp
  persons : ∀ row ∈ tables.persons.rows, cutoff ≤ row.lastSeen
  alerts : ∀ row ∈ tables.alerts.rows, cutoff ≤ row.timestamp

namespace CleanupLoop

variable (settings : Settings)

/-- The loop begins. -/
def start (stores : Stores) : CleanupLoop where
  keepRunning := true
  pause := 0
  stores := stores
  crops := stores.tables.crops settings
  people := stores.tables.persons.keys

/-- Other stores, noted. -/
def note (loop : CleanupLoop) (stores : Stores) : CleanupLoop :=
  { loop with
    stores := stores
    crops := stores.tables.crops settings ++ loop.crops
    people := stores.tables.persons.keys ++ loop.people }

/-- `run_data_cleanup_job`: the flag is tested before each run and each second. -/
def step (cleanupIntervalHours : ℕ) (loop : CleanupLoop) : LoopStep → Option CleanupLoop
  | .attempt attempt =>
      if loop.keepRunning ∧ loop.pause = 0 then
        some { loop.note settings (attempt.run settings loop.stores) with
          pause := cleanupIntervalHours * 3600 }
      else none
  | .second =>
      if loop.keepRunning ∧ loop.pause ≠ 0 then some { loop with pause := loop.pause - 1 } else none
  | .write stores => some (loop.note settings stores)
  | .shutDown => some { loop with keepRunning := false }

end CleanupLoop

/-! ## One run -/

section Run

variable {settings : Settings} {attempt : Attempt} {stores : Stores}

theorem mem_crops {tables : Tables} {object : ObjectRef} :
    object ∈ tables.crops settings ↔ tables.RefersTo settings object := by
  simp only [Tables.crops, List.map_append, List.mem_append, List.mem_map, mem_truthy,
    Tables.RefersTo, Settings.CropAt]
  refine or_congr ⟨?_, ?_⟩ ⟨?_, ?_⟩
  · rintro ⟨path, ⟨⟨row, here, carries⟩, some⟩, leads⟩
    exact ⟨row, here, path, carries, some, leads⟩
  · rintro ⟨row, here, path, carries, some, leads⟩
    exact ⟨path, ⟨⟨row, here, carries⟩, some⟩, leads⟩
  · rintro ⟨path, ⟨⟨row, here, carries⟩, some⟩, leads⟩
    exact ⟨row, here, path, carries, some, leads⟩
  · rintro ⟨row, here, path, carries, some, leads⟩
    exact ⟨path, ⟨⟨row, here, carries⟩, some⟩, leads⟩

/-- **What a run does**: nothing, or a sweep, or a sweep and a purge. -/
theorem Attempt.run_cases (settings : Settings) (attempt : Attempt) (stores : Stores) :
    (¬ attempt.Commits settings stores.tables ∧ attempt.run settings stores = stores.opened) ∨
    (¬ attempt.Commits settings stores.tables ∧ attempt.run settings stores =
      stores.swept attempt.failures attempt.engine settings (attempt.cutoff settings)) ∨
    (attempt.Commits settings stores.tables ∧ attempt.run settings stores =
      (stores.swept attempt.failures attempt.engine settings (attempt.cutoff settings)).setTables
        (stores.tables.purged (attempt.cutoff settings))) := by
  by_cases unselected : SelectionFails attempt.failures (attempt.cutoff settings)
  · obtain ⟨error, outcome⟩ := @executeCleanupJob_of_selectionFails attempt.failures
      attempt.engine settings attempt.now stores unselected
    exact Or.inl ⟨fun commits => commits.1 unselected, congrArg Prod.snd outcome⟩
  by_cases fails : DeletionFails attempt.failures stores.tables (attempt.cutoff settings)
  · obtain ⟨error, outcome⟩ := @executeCleanupJob_of_deletionFails attempt.failures
      attempt.engine settings attempt.now stores unselected fails
    exact Or.inr (Or.inl ⟨fun commits => commits.2 fails, congrArg Prod.snd outcome⟩)
  · exact Or.inr (Or.inr ⟨⟨unselected, fails⟩,
      congrArg Prod.snd (executeCleanupJob_of_committed unselected fails)⟩)

/-- The tables after a run. -/
theorem tables_run : (attempt.run settings stores).tables =
    if attempt.Commits settings stores.tables then stores.tables.purged (attempt.cutoff settings)
    else stores.tables := by
  rcases attempt.run_cases settings stores with ⟨fails, same⟩ | ⟨fails, same⟩ | ⟨commits, same⟩
  · rw [same, if_neg fails]
    rfl
  · rw [same, if_neg fails]
    rfl
  · rw [same, if_pos commits]
    rfl

/-- The objects after a run, and the vectors: all that were there, or those of a sweep. -/
theorem rest_run :
    (¬ attempt.Commits settings stores.tables ∧
      (attempt.run settings stores).minio.objects = stores.minio.objects ∧
      (attempt.run settings stores).qdrant.points = stores.qdrant.points) ∨
    ((attempt.run settings stores).minio =
        (stores.swept attempt.failures attempt.engine settings (attempt.cutoff settings)).minio ∧
      (attempt.run settings stores).qdrant =
        (stores.swept attempt.failures attempt.engine settings
          (attempt.cutoff settings)).qdrant) := by
  rcases attempt.run_cases settings stores with ⟨fails, same⟩ | ⟨-, same⟩ | ⟨-, same⟩
  · rw [same]
    exact Or.inl ⟨fails, rfl, rfl⟩
  · rw [same]
    exact Or.inr ⟨rfl, rfl⟩
  · rw [same]
    exact Or.inr ⟨rfl, rfl⟩

/-- A run adds no object, and takes only crops of expired rows. -/
theorem mem_objects_run {object : ObjectRef} :
    (object ∈ (attempt.run settings stores).minio.objects → object ∈ stores.minio.objects) ∧
    (object ∈ stores.minio.objects → object ∉ (attempt.run settings stores).minio.objects →
      ∃ path ∈ stores.tables.expiredCrops (attempt.cutoff settings),
        settings.cropObject path = object) := by
  rcases @rest_run settings attempt stores with ⟨-, same, -⟩ | ⟨same, -⟩
  · rw [same]
    exact ⟨id, fun here gone => absurd here gone⟩
  · rw [same, mem_objects_swept]
    refine ⟨And.left, fun here gone => ?_⟩
    have swept :
        object ∈ stores.sweptObjects attempt.failures settings (attempt.cutoff settings) := by
      by_contra kept
      exact gone ⟨here, kept⟩
    exact exists_crop_of_swept swept

/-- A run adds no vector, and takes only those of expired persons. -/
theorem points_run (point : PointId) :
    (attempt.run settings stores).qdrant.points point = stores.qdrant.points point ∨
      (attempt.run settings stores).qdrant.points point = none ∧
        ∃ id ∈ stores.tables.expiredPersonIds (attempt.cutoff settings),
          PointId.str id.toText = point := by
  rcases @rest_run settings attempt stores with ⟨-, -, same⟩ | ⟨-, same⟩
  · exact Or.inl (congrFun same point)
  · have swept := points_forgotten attempt.failures attempt.engine
      (show stores.opened.qdrant.checked = false from rfl)
      (stores.tables.expiredPersonIds (attempt.cutoff settings)) point
    rw [same]
    split at swept
    · rename_i taken
      exact Or.inr ⟨swept, taken.2⟩
    · exact Or.inl swept

section Committed

variable (commits : attempt.Commits settings stores.tables)

include commits

/-- A run that commits and removes the crops of expired rows leaves none of them. -/
theorem notMem_objects_run (removes : attempt.RemovesCrops settings stores) {path : String}
    (expired : path ∈ stores.tables.expiredCrops (attempt.cutoff settings)) :
    settings.cropObject path ∉ (attempt.run settings stores).minio.objects := by
  intro still
  rcases @rest_run settings attempt stores with ⟨fails, -⟩ | ⟨same, -⟩
  · exact fails commits
  · rw [same, mem_objects_swept] at still
    exact still.2 (removes path expired still.1)

/-- A thorough run that commits leaves no point under the UUID of an expired person. -/
theorem points_run_of_expired (thorough : attempt.Thorough settings stores) {id : Uuid}
    (expired : id ∈ stores.tables.expiredPersonIds (attempt.cutoff settings)) :
    (attempt.run settings stores).qdrant.points (.str id.toText) = none := by
  rcases @rest_run settings attempt stores with ⟨fails, -⟩ | ⟨-, same⟩
  · exact absurd commits fails
  · rw [same, points_swept]
    split
    · rfl
    · rename_i kept
      refine thorough.vectors ?_ id expired
      by_contra succeeds
      exact kept ⟨succeeds, id, expired, rfl⟩

end Committed

end Run

/-! ## Over the life of the loop -/

/-- Alerts that are not expired stay, without references to expired persons. -/
theorem Tables.rows_alerts_purged (tables : Tables) (cutoff : Instant) :
    (tables.purged cutoff).alerts.rows =
      (tables.alerts.select fun row => !decide (row.timestamp < cutoff)).map
        (AlertRow.detach (tables.expiredPersonIds cutoff)) := by
  rw [← Table.rows_delete_select]
  rfl

/-- A purge leaves recent rows. -/
theorem Tables.recent_purged (tables : Tables) (cutoff : Instant) :
    (tables.purged cutoff).Recent cutoff := by
  have recent : ∀ {time : Instant}, (!decide (time < cutoff)) = true → cutoff ≤ time := by
    intro time kept
    simpa using kept
  constructor
  case tracking =>
    rw [rows_tracking_purged]
    intro row here
    obtain ⟨old, kept, rfl⟩ := List.mem_map.mp here
    exact recent (Table.mem_select.mp kept).2
  case fire =>
    rw [rows_fire_purged]
    exact fun row here => recent (Table.mem_select.mp here).2
  case persons =>
    rw [rows_persons_purged]
    exact fun row here => recent (Table.mem_select.mp here).2
  case alerts =>
    rw [rows_alerts_purged]
    intro row here
    obtain ⟨old, kept, rfl⟩ := List.mem_map.mp here
    exact recent (Table.mem_select.mp kept).2

namespace CleanupLoop

section Leaks

variable {settings : Settings} {hours : ℕ} {loop next : CleanupLoop} {attempt : Attempt}

/-- A step of the loop that makes a run. -/
theorem step_attempt (moved : step settings hours loop (.attempt attempt) = some next) :
    next.stores = attempt.run settings loop.stores ∧
      next.crops = next.stores.tables.crops settings ++ loop.crops ∧
      next.people = next.stores.tables.persons.keys ++ loop.people := by
  rw [step] at moved
  split at moved
  · cases moved
    exact ⟨rfl, rfl, rfl⟩
  · cases moved

end Leaks

end CleanupLoop

/-! ## How often -/

/-- A run is made. -/
def LoopStep.isRun : LoopStep → Bool
  | .attempt _ => true
  | _ => false

/-- A second is slept. -/
def LoopStep.isSecond : LoopStep → Bool
  | .second => true
  | _ => false

namespace CleanupLoop

@[simp] theorem pause_note (settings : Settings) (loop : CleanupLoop) (stores : Stores) :
    (loop.note settings stores).pause = loop.pause := rfl

/-- **One run in each interval**: the seconds slept, with those still to sleep, are those of
the intervals after the runs made so far. -/
theorem seconds_eq {settings : Settings} {hours : ℕ} {stores : Stores} {steps : List LoopStep}
    {loop : CleanupLoop}
    (reached : runFrom (step settings hours) (start settings stores) steps = some loop) :
    steps.countP LoopStep.isSecond + loop.pause = steps.countP LoopStep.isRun * (hours * 3600) := by
  refine @runFrom_history _ _ _ _ (fun steps loop => steps.countP LoopStep.isSecond + loop.pause =
    steps.countP LoopStep.isRun * (hours * 3600)) (by simp [start]) ?_ _ _ reached
  intro taken before label after _ counted moved
  rw [List.countP_append, List.countP_append, List.countP_singleton, List.countP_singleton]
  cases label with
  | attempt attempt =>
      rw [step] at moved
      split at moved
      · rename_i enabled
        cases moved
        simp only [LoopStep.isRun, LoopStep.isSecond, Nat.add_mul, ← counted, enabled.2]
        simp
      · cases moved
  | second =>
      rw [step] at moved
      split at moved
      · rename_i enabled
        cases moved
        simp only [LoopStep.isRun, LoopStep.isSecond]
        have sleeping := enabled.2
        simp
        omega
      · cases moved
  | write stores =>
      cases moved
      simpa [LoopStep.isRun, LoopStep.isSecond] using counted
  | shutDown =>
      cases moved
      simpa [LoopStep.isRun, LoopStep.isSecond] using counted

end CleanupLoop

/-! ### A run that fails, and one that does not -/

/-- A run whose commit fails. -/
def failedRun : Attempt where
  now := exampleNow
  failures := commitFails
  engine := Engine.silent

/-- A run in which nothing fails. -/
def calmRun : Attempt where
  now := exampleNow
  failures := .never
  engine := Engine.silent

theorem not_commits_failedRun (tables : Tables) : ¬ failedRun.Commits exampleSettings tables :=
  fun commits => commits.2 (Or.inr (Or.inr (Or.inr (Or.inr rfl))))

/-- A run in which nothing fails commits, and is thorough. -/
theorem commits_of_never {settings : Settings} {attempt : Attempt}
    (calm : attempt.failures = .never) (tables : Tables) : attempt.Commits settings tables := by
  rw [Attempt.Commits, calm]
  exact ⟨not_selectionFails_never _, not_deletionFails_never _ _⟩

theorem thorough_of_never {settings : Settings} {attempt : Attempt}
    (calm : attempt.failures = .never) (stores : Stores) : attempt.Thorough settings stores := by
  constructor
  case vectors =>
    rw [calm]
    exact fun fails => absurd fails (not_forgettingFails_never _ _)
  case objects =>
    intro path expired _
    rw [calm, Stores.sweptObjects]
    show _ ∈ Minio.removed (fun _ => false) _ _
    rw [Minio.removed_never]
    exact List.mem_map_of_mem expired

namespace CleanupLoop

/-- The loop after the run that fails. -/
def afterFailure : CleanupLoop :=
  { (start exampleSettings exampleStores).note exampleSettings
      (failedRun.run exampleSettings exampleStores) with pause := 0 }

theorem runFrom_failedRun : runFrom (step exampleSettings 0) (start exampleSettings exampleStores)
    [.attempt failedRun] = some afterFailure := rfl

end CleanupLoop

/-! ## What a failed run costs -/

section Purges

variable {tables : Tables} {first second : Instant}

theorem mem_expiredPersonIds {id : Uuid} :
    id ∈ tables.expiredPersonIds second ↔
      ∃ row ∈ tables.persons.rows, row.lastSeen < second ∧ row.id = id := by
  simp only [Tables.expiredPersonIds, Tables.expiredPersons, List.mem_map, Table.mem_select,
    decide_eq_true_eq, and_assoc]

/-- Who is expired after a purge was expired before it. -/
theorem mem_expiredPersonIds_of_purged {id : Uuid}
    (expired : id ∈ (tables.purged first).expiredPersonIds second) :
    id ∈ tables.expiredPersonIds second := by
  rw [mem_expiredPersonIds, Tables.rows_persons_purged] at expired
  obtain ⟨row, kept, old, same⟩ := expired
  exact mem_expiredPersonIds.mpr ⟨row, (Table.mem_select.mp kept).1, old, same⟩

/-- …and so were the rows that carry a crop. -/
theorem mem_expiredCrops_of_purged {path : String}
    (expired : path ∈ (tables.purged first).expiredCrops second) :
    path ∈ tables.expiredCrops second := by
  rw [Tables.mem_expiredCrops, Tables.CropExpired, Tables.rows_tracking_purged,
    Tables.rows_fire_purged] at expired
  obtain ⟨⟨row, kept, old, carries⟩ | ⟨row, kept, old, carries⟩, some⟩ := expired
  · obtain ⟨former, selected, rfl⟩ := List.mem_map.mp kept
    exact Tables.mem_expiredCrops.mpr
      ⟨Or.inl ⟨former, (Table.mem_select.mp selected).1, old, carries⟩, some⟩
  · exact Tables.mem_expiredCrops.mpr
      ⟨Or.inr ⟨row, (Table.mem_select.mp kept).1, old, carries⟩, some⟩

variable (later : first ≤ second)

include later

/-- Who is expired at a later cutoff was expired at the first, or is after the first purge. -/
theorem mem_expiredPersonIds_purged {id : Uuid} :
    id ∈ tables.expiredPersonIds second ↔
      id ∈ tables.expiredPersonIds first ∨ id ∈ (tables.purged first).expiredPersonIds second := by
  constructor
  · intro expired
    obtain ⟨row, here, old, rfl⟩ := mem_expiredPersonIds.mp expired
    rcases lt_or_ge row.lastSeen first with before | recent
    · exact Or.inl (mem_expiredPersonIds.mpr ⟨row, here, before, rfl⟩)
    · refine Or.inr (mem_expiredPersonIds.mpr ⟨row, ?_, old, rfl⟩)
      rw [Tables.rows_persons_purged, Table.mem_select]
      exact ⟨here, by simpa using recent⟩
  · rintro (expired | expired)
    · obtain ⟨row, here, old, rfl⟩ := mem_expiredPersonIds.mp expired
      exact mem_expiredPersonIds.mpr ⟨row, here, old.trans_le later, rfl⟩
    · exact mem_expiredPersonIds_of_purged expired

/-- The crops of rows that are expired at a later cutoff. -/
theorem mem_expiredCrops_purged {path : String} :
    path ∈ tables.expiredCrops second ↔
      path ∈ tables.expiredCrops first ∨ path ∈ (tables.purged first).expiredCrops second := by
  constructor
  · intro expired
    obtain ⟨⟨row, here, old, carries⟩ | ⟨row, here, old, carries⟩, some⟩ :=
      Tables.mem_expiredCrops.mp expired
    · rcases lt_or_ge row.timestamp first with before | recent
      · exact Or.inl (Tables.mem_expiredCrops.mpr ⟨Or.inl ⟨row, here, before, carries⟩, some⟩)
      · refine Or.inr (Tables.mem_expiredCrops.mpr
          ⟨Or.inl ⟨row.detach (tables.expiredPersonIds first), ?_, old, carries⟩, some⟩)
        rw [Tables.rows_tracking_purged]
        exact List.mem_map.mpr ⟨row, Table.mem_select.mpr ⟨here, by simpa using recent⟩, rfl⟩
    · rcases lt_or_ge row.timestamp first with before | recent
      · exact Or.inl (Tables.mem_expiredCrops.mpr ⟨Or.inr ⟨row, here, before, carries⟩, some⟩)
      · refine Or.inr (Tables.mem_expiredCrops.mpr ⟨Or.inr ⟨row, ?_, old, carries⟩, some⟩)
        rw [Tables.rows_fire_purged, Table.mem_select]
        exact ⟨here, by simpa using recent⟩
  · rintro (expired | expired)
    · obtain ⟨⟨row, here, old, carries⟩ | ⟨row, here, old, carries⟩, some⟩ :=
        Tables.mem_expiredCrops.mp expired
      · exact Tables.mem_expiredCrops.mpr ⟨Or.inl ⟨row, here, old.trans_le later, carries⟩, some⟩
      · exact Tables.mem_expiredCrops.mpr ⟨Or.inr ⟨row, here, old.trans_le later, carries⟩, some⟩
    · exact mem_expiredCrops_of_purged expired

/-- A reference set to null by two purges, or by the later one alone. -/
theorem detach_purged (reference : Option Uuid) :
    detach ((tables.purged first).expiredPersonIds second)
        (detach (tables.expiredPersonIds first) reference) =
      detach (tables.expiredPersonIds second) reference := by
  ext id
  have both := @mem_expiredPersonIds_purged tables first second later id
  rw [detach_eq_some, detach_eq_some, detach_eq_some, both, not_or, and_assoc]

/-- The rows that two purges keep. -/
theorem select_purged {ρ : Type} {key : ρ → Uuid} (table : Table Uuid ρ key) (time : ρ → Instant)
    (change : ρ → ρ) (steady : ∀ row, time (change row) = time row) :
    ((table.select fun row => !decide (time row < first)).map change).filter
        (fun row => !decide (time row < second)) =
      (table.select fun row => !decide (time row < second)).map change := by
  rw [List.filter_map, Table.select, List.filter_filter, Table.select]
  refine congrArg (List.map change) (List.filter_congr fun row _ => ?_)
  rw [Function.comp_apply, steady, ← Bool.not_or, ← Bool.decide_or, Bool.not_inj_iff,
    decide_eq_decide]
  exact ⟨fun either => either.elim id fun old => old.trans_le later, Or.inl⟩

/-- **Two purges are the later one.** -/
theorem purged_purged : (tables.purged first).purged second = tables.purged second := by
  ext1
  · ext1
    rw [Tables.rows_tracking_purged, Table.select, Tables.rows_tracking_purged,
      select_purged later tables.tracking TrackingRow.timestamp
        (TrackingRow.detach (tables.expiredPersonIds first)) fun _ => rfl, List.map_map,
      Tables.rows_tracking_purged]
    refine List.map_congr_left fun row _ => ?_
    rw [Function.comp_apply, TrackingRow.detach, TrackingRow.detach, TrackingRow.detach,
      detach_purged later]
  · ext1
    rw [Tables.rows_fire_purged, Table.select, Tables.rows_fire_purged, Tables.rows_fire_purged]
    have kept := select_purged later tables.fire FireRow.timestamp id fun _ => rfl
    rwa [List.map_id, List.map_id] at kept
  · ext1
    rw [Tables.rows_persons_purged, Table.select, Tables.rows_persons_purged,
      Tables.rows_persons_purged]
    have kept := select_purged later tables.persons PersonRow.lastSeen id fun _ => rfl
    rwa [List.map_id, List.map_id] at kept
  · ext1
    rw [Tables.rows_alerts_purged, Table.select, Tables.rows_alerts_purged,
      select_purged later tables.alerts AlertRow.timestamp
        (AlertRow.detach (tables.expiredPersonIds first)) fun _ => rfl, List.map_map,
      Tables.rows_alerts_purged]
    refine List.map_congr_left fun row _ => ?_
    rw [Function.comp_apply, AlertRow.detach, AlertRow.detach, AlertRow.detach,
      detach_purged later]

omit later in
/-- Where nothing is expired, nothing is purged. -/
theorem purged_of_recent {cutoff : Instant} (recent : tables.Recent cutoff) :
    tables.purged cutoff = tables := by
  have nothing : ∀ {ρ : Type} {key : ρ → Uuid} (table : Table Uuid ρ key) (time : ρ → Instant),
      (∀ row ∈ table.rows, cutoff ≤ time row) →
        (table.select fun row => time row < cutoff).map key = [] := by
    intro ρ key table time recent
    refine List.map_eq_nil_iff.mpr (List.filter_eq_nil_iff.mpr fun row here => ?_)
    simpa using recent row here
  have deleteAlerts_nil : tables.deleteAlerts [] = tables := by
    ext1
    case alerts => exact Table.delete_nil _
    all_goals rfl
  rw [Tables.purged, show tables.expiredTrackingIds cutoff = [] from nothing _ _ recent.tracking,
    show tables.expiredFireIds cutoff = [] from nothing _ _ recent.fire,
    show tables.expiredAlertIds cutoff = [] from nothing _ _ recent.alerts,
    show tables.expiredPersonIds cutoff = [] from nothing _ _ recent.persons,
    Tables.deleteTracking_nil, Tables.deleteFire_nil, deleteAlerts_nil, Tables.deletePersons_nil]

omit later in
/-- A purge after a later one purges nothing. -/
theorem purged_of_later (earlier : second ≤ first) :
    (tables.purged first).purged second = tables.purged first := by
  have recent := tables.recent_purged first
  exact purged_of_recent ⟨fun row here => earlier.trans (recent.tracking row here),
    fun row here => earlier.trans (recent.fire row here),
    fun row here => earlier.trans (recent.persons row here),
    fun row here => earlier.trans (recent.alerts row here)⟩

end Purges

/-- Stores somewhere between what was there first and what a run with a later cutoff
leaves: of what is missing, all was expired, and where rows are missing, all that was
theirs is. -/
structure Underway (settings : Settings) (cutoff : Instant) (first stores : Stores) : Prop where
  tables : stores.tables = first.tables ∨ ∃ earlier ≤ cutoff,
    stores.tables = first.tables.purged earlier ∧
      (∀ path ∈ first.tables.expiredCrops earlier,
        settings.cropObject path ∉ stores.minio.objects) ∧
      ∀ id ∈ first.tables.expiredPersonIds earlier, stores.qdrant.points (.str id.toText) = none
  noMore : ∀ object ∈ stores.minio.objects, object ∈ first.minio.objects
  taken : ∀ object ∈ first.minio.objects, object ∉ stores.minio.objects →
    ∃ path ∈ first.tables.expiredCrops cutoff, settings.cropObject path = object
  points : ∀ point, stores.qdrant.points point = first.qdrant.points point ∨
    stores.qdrant.points point = none ∧
      ∃ id ∈ first.tables.expiredPersonIds cutoff, PointId.str id.toText = point

/-- The same rows, objects and vectors. -/
structure SameContents (first second : Stores) : Prop where
  tables : first.tables = second.tables
  objects : first.minio.objects = second.minio.objects
  points : first.qdrant.points = second.qdrant.points

section Recovery

variable {settings : Settings} {cutoff : Instant} {first stores : Stores} {attempt : Attempt}

theorem underway_start : Underway settings cutoff first first where
  tables := Or.inl rfl
  noMore _ here := here
  taken _ here gone := absurd here gone
  points _ := Or.inl rfl

section Underway

variable (underway : Underway settings cutoff first stores)

include underway

/-- What is expired in stores underway was expired first. -/
theorem mem_expiredCrops_of_underway {path : String} {now : Instant} (earlier : now ≤ cutoff)
    (expired : path ∈ stores.tables.expiredCrops now) :
    path ∈ first.tables.expiredCrops cutoff := by
  refine (mem_expiredCrops_purged earlier).mpr (Or.inl ?_)
  rcases underway.tables with same | ⟨before, -, same, -⟩
  · rwa [same] at expired
  · rw [same] at expired
    exact mem_expiredCrops_of_purged expired

theorem mem_expiredPersonIds_of_underway {id : Uuid} {now : Instant} (earlier : now ≤ cutoff)
    (expired : id ∈ stores.tables.expiredPersonIds now) :
    id ∈ first.tables.expiredPersonIds cutoff := by
  refine (mem_expiredPersonIds_purged earlier).mpr (Or.inl ?_)
  rcases underway.tables with same | ⟨before, -, same, -⟩
  · rwa [same] at expired
  · rw [same] at expired
    exact mem_expiredPersonIds_of_purged expired

/-- A run takes no more than its successors would. -/
theorem underway_attempt (earlier : attempt.cutoff settings ≤ cutoff)
    (careful : attempt.Commits settings stores.tables → attempt.Thorough settings stores) :
    Underway settings cutoff first (attempt.run settings stores) := by
  have points_none : ∀ {point : PointId}, stores.qdrant.points point = none →
      (attempt.run settings stores).qdrant.points point = none := by
    intro point gone
    rcases @points_run settings attempt stores point with same | ⟨none, -⟩
    · rw [same, gone]
    · exact none
  constructor
  case tables =>
    rw [tables_run]
    split
    · rename_i commits
      have thorough := careful commits
      rcases underway.tables with same | ⟨before, bound, same, crops, vectors⟩
      · refine Or.inr ⟨_, earlier, by rw [same], fun path expired => ?_, fun id expired => ?_⟩
        · exact notMem_objects_run commits thorough.objects (same ▸ expired)
        · exact points_run_of_expired commits thorough (same ▸ expired)
      -- a later cutoff takes more than the one before it, a sooner one takes nothing
      rcases le_total before (attempt.cutoff settings) with later | sooner
      · refine Or.inr ⟨_, earlier, by rw [same, purged_purged later], fun path expired => ?_,
          fun id expired => ?_⟩
        · rcases (mem_expiredCrops_purged later).mp expired with already | now
          · exact fun still => crops path already (mem_objects_run.1 still)
          · exact notMem_objects_run commits thorough.objects (same ▸ now)
        · rcases (mem_expiredPersonIds_purged later).mp expired with already | now
          · exact points_none (vectors id already)
          · exact points_run_of_expired commits thorough (same ▸ now)
      · exact Or.inr ⟨before, bound, by rw [same, purged_of_later sooner],
          fun path expired still => crops path expired (mem_objects_run.1 still),
          fun id expired => points_none (vectors id expired)⟩
    · rcases underway.tables with same | ⟨before, bound, same, crops, vectors⟩
      · exact Or.inl same
      · exact Or.inr ⟨before, bound, same,
          fun path expired still => crops path expired (mem_objects_run.1 still),
          fun id expired => points_none (vectors id expired)⟩
  case noMore => exact fun object here => underway.noMore object (mem_objects_run.1 here)
  case taken =>
    intro object here gone
    -- gone in this run, or before it
    by_cases still : object ∈ stores.minio.objects
    · obtain ⟨path, expired, same⟩ := mem_objects_run.2 still gone
      exact ⟨path, mem_expiredCrops_of_underway underway earlier expired, same⟩
    · exact underway.taken object here still
  case points =>
    intro point
    rcases @points_run settings attempt stores point with same | ⟨none, id, expired, named⟩
    · rw [same]
      exact underway.points point
    · exact Or.inr ⟨none, id, mem_expiredPersonIds_of_underway underway earlier expired, named⟩

end Underway

/-- The objects after a run in which nothing fails. -/
theorem mem_objects_run_never (calm : attempt.failures = .never) {object : ObjectRef} :
    object ∈ (attempt.run settings stores).minio.objects ↔ object ∈ stores.minio.objects ∧
      ¬ ∃ path ∈ stores.tables.expiredCrops (attempt.cutoff settings),
        settings.cropObject path = object := by
  constructor
  · rintro here
    refine ⟨mem_objects_run.1 here, ?_⟩
    rintro ⟨path, expired, rfl⟩
    exact notMem_objects_run (commits_of_never calm _) (thorough_of_never calm _).objects expired
      here
  · rintro ⟨here, kept⟩
    by_contra gone
    exact kept (mem_objects_run.2 here gone)

/-- The vectors after a run in which nothing fails. -/
theorem points_run_never (calm : attempt.failures = .never) (point : PointId) :
    (attempt.run settings stores).qdrant.points point =
      if ∃ id ∈ stores.tables.expiredPersonIds (attempt.cutoff settings),
        PointId.str id.toText = point then none
      else stores.qdrant.points point := by
  split
  · rename_i expired
    obtain ⟨id, expired, rfl⟩ := expired
    exact points_run_of_expired (commits_of_never calm _) (thorough_of_never calm _) expired
  · rename_i kept
    exact (points_run point).resolve_right fun gone => kept gone.2

/-- **From wherever a history of runs has led**, a run in which nothing fails leads to
where it would have led at once. -/
theorem sameContents_of_underway
    (underway : Underway settings (attempt.cutoff settings) first stores)
    (calm : attempt.failures = .never) :
    SameContents (attempt.run settings stores) (attempt.run settings first) := by
  constructor
  case tables =>
    rw [tables_run, tables_run, if_pos (commits_of_never calm _), if_pos (commits_of_never calm _)]
    rcases underway.tables with same | ⟨before, bound, same, -⟩
    · rw [same]
    · rw [same, purged_purged bound]
  case objects =>
    ext object
    rw [mem_objects_run_never calm, mem_objects_run_never calm]
    constructor
    · rintro ⟨here, kept⟩
      refine ⟨underway.noMore object here, ?_⟩
      rintro ⟨path, expired, rfl⟩
      rcases underway.tables with same | ⟨before, bound, same, crops, -⟩
      · exact kept ⟨path, same ▸ expired, rfl⟩
      · rcases (mem_expiredCrops_purged bound).mp expired with already | now
        · exact crops path already here
        · exact kept ⟨path, same ▸ now, rfl⟩
    · rintro ⟨here, kept⟩
      refine ⟨?_, ?_⟩
      · by_contra gone
        exact kept (underway.taken object here gone)
      · rintro ⟨path, expired, rfl⟩
        exact kept ⟨path, mem_expiredCrops_of_underway underway le_rfl expired, rfl⟩
  case points =>
    funext point
    rw [points_run_never calm, points_run_never calm]
    by_cases expired : ∃ id ∈ first.tables.expiredPersonIds (attempt.cutoff settings),
        PointId.str id.toText = point
    · rw [if_pos expired]
      split
      · rfl
      · rename_i kept
        obtain ⟨id, expired, rfl⟩ := expired
        rcases underway.tables with same | ⟨before, bound, same, -, vectors⟩
        · exact absurd ⟨id, same ▸ expired, rfl⟩ kept
        · rcases (mem_expiredPersonIds_purged bound).mp expired with already | now
          · exact vectors id already
          · exact absurd ⟨id, same ▸ now, rfl⟩ kept
    · rw [if_neg expired, if_neg]
      · exact (underway.points point).resolve_right fun gone => expired gone.2
      · rintro ⟨id, now, rfl⟩
        exact expired ⟨id, mem_expiredPersonIds_of_underway underway le_rfl now, rfl⟩

/-- No other service writes, no run is later than the last, and runs that commit are thorough. -/
def Earlier (settings : Settings) (last : Attempt) (loop : CleanupLoop) : LoopStep → Prop
  | .attempt attempt => attempt.cutoff settings ≤ last.cutoff settings ∧
      (attempt.Commits settings loop.stores.tables → attempt.Thorough settings loop.stores)
  | .write _ => False
  | .second | .shutDown => True

variable {hours : ℕ} {last : Attempt} {loop : CleanupLoop} {steps : List LoopStep}

theorem underway_step (before : CleanupLoop) (label : LoopStep) (after : CleanupLoop)
    (underway : Underway settings (last.cutoff settings) first before.stores)
    (met : Earlier settings last before label)
    (moved : CleanupLoop.step settings hours before label = some after) :
    Underway settings (last.cutoff settings) first after.stores := by
  cases label with
  | attempt attempt =>
      rw [(CleanupLoop.step_attempt moved).1]
      exact underway_attempt underway met.1 met.2
  | write stores => exact absurd met id
  | second =>
      rw [CleanupLoop.step] at moved
      split at moved
      · cases moved
        exact underway
      · cases moved
  | shutDown =>
      cases moved
      exact underway

/-- **A failed run costs nothing.**  After any runs, at any times up to the last one's, of
which those that committed were thorough, a run in which nothing fails leaves the rows,
the objects and the vectors that it would have left as the only one. -/
theorem recovers
    (guarded : Meets (Earlier settings last) (CleanupLoop.step settings hours)
      (CleanupLoop.start settings first) steps)
    (reached : runFrom (CleanupLoop.step settings hours) (CleanupLoop.start settings first) steps =
      some loop)
    (calm : last.failures = .never) :
    SameContents (last.run settings loop.stores) (last.run settings first) := by
  have underway : Underway settings (last.cutoff settings) first loop.stores :=
    @runFrom_invariant_of_meets _ _ _ _ (fun loop => Underway settings _ first loop.stores)
      underway_step _ _ _ underway_start guarded reached
  exact sameContents_of_underway underway calm

end Recovery

/-- The run after the one that failed makes up for it. -/
theorem recovers_example :
    SameContents (calmRun.run exampleSettings CleanupLoop.afterFailure.stores)
      (calmRun.run exampleSettings exampleStores) := by
  have guarded : Meets (Earlier exampleSettings calmRun) (CleanupLoop.step exampleSettings 0)
      (CleanupLoop.start exampleSettings exampleStores) [.attempt failedRun] :=
    ⟨⟨le_rfl, fun commits => absurd commits (not_commits_failedRun _)⟩, fun _ _ => trivial⟩
  exact recovers guarded CleanupLoop.runFrom_failedRun rfl

end PersonTracking.Scheduler
