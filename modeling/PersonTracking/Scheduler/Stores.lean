import PersonTracking.Domain.Entities
import PersonTracking.Library.Table
import PersonTracking.Shared.Minio
import PersonTracking.Shared.Qdrant

/-!
# The stores the retention job cleans

The tables `tracking_events`, `fire_events`, `persons` and `alerts` with their
keys and the references to `persons` that a deleted person sets to null, and
beside them Qdrant and MinIO.

A session collects what it has deleted (`Delete`) and applies it to the tables
when it commits.  Statements of the session read through what it has collected.
-/

namespace PersonTracking.Scheduler

open Library Python Shared Domain

/-! ## Rows -/

/-- A `timestamptz`, in microseconds of UTC. -/
abbrev Instant : Type := Int

/-- A row of `tracking_events`. -/
structure TrackingRow where
  id : Uuid
  personId : Option Uuid
  cameraId : Uuid
  bbox : BoundingBox PyFloat
  confidence : PyFloat
  cropPath : Option String
  timestamp : Instant
  createdAt : Instant
deriving DecidableEq

/-- A row of `fire_events`. -/
structure FireRow where
  id : Uuid
  cameraId : Uuid
  confidence : PyFloat
  cropPath : Option String
  resolved : Bool
  timestamp : Instant
  createdAt : Instant
deriving DecidableEq

/-- A row of `persons`. -/
structure PersonRow where
  id : Uuid
  displayName : Option String
  firstSeen : Instant
  lastSeen : Instant
  totalAppearances : ℕ
  createdAt : Instant
deriving DecidableEq

/-- A row of `alerts`. -/
structure AlertRow where
  id : Uuid
  type : String
  severity : String
  title : String
  description : Option String
  cameraId : Option Uuid
  personId : Option Uuid
  isRead : Bool
  timestamp : Instant
  createdAt : Instant
deriving DecidableEq

/-- `ON DELETE SET NULL`: what is left of a reference when rows are deleted. -/
def detach (deleted : List Uuid) (reference : Option Uuid) : Option Uuid :=
  reference.filter fun id => id ∉ deleted

theorem detach_eq_some {deleted : List Uuid} {reference : Option Uuid} {id : Uuid} :
    detach deleted reference = some id ↔ reference = some id ∧ id ∉ deleted := by
  rw [detach, Option.filter_eq_some_iff, decide_eq_true_eq]

theorem detach_of_kept {deleted : List Uuid} {reference : Option Uuid}
    (kept : ∀ id, reference = some id → id ∉ deleted) : detach deleted reference = reference := by
  ext id
  rw [detach_eq_some]
  exact ⟨fun found => found.1, fun here => ⟨here, kept id here⟩⟩

def TrackingRow.detach (deleted : List Uuid) (row : TrackingRow) : TrackingRow :=
  { row with personId := Scheduler.detach deleted row.personId }

def AlertRow.detach (deleted : List Uuid) (row : AlertRow) : AlertRow :=
  { row with personId := Scheduler.detach deleted row.personId }

/-- A row that refers to none of the deleted persons is left alone. -/
theorem TrackingRow.detach_of_kept {deleted : List Uuid} {row : TrackingRow}
    (kept : ∀ id, row.personId = some id → id ∉ deleted) : row.detach deleted = row := by
  rw [TrackingRow.detach, Scheduler.detach_of_kept kept]

theorem AlertRow.detach_of_kept {deleted : List Uuid} {row : AlertRow}
    (kept : ∀ id, row.personId = some id → id ∉ deleted) : row.detach deleted = row := by
  rw [AlertRow.detach, Scheduler.detach_of_kept kept]

/-! ## Tables -/

/-- The tables; a person reference leads to a row that is there. -/
structure Tables where
  tracking : Table Uuid TrackingRow TrackingRow.id
  fire : Table Uuid FireRow FireRow.id
  persons : Table Uuid PersonRow PersonRow.id
  alerts : Table Uuid AlertRow AlertRow.id
  attributed : ∀ row ∈ tracking.rows, ∀ id, row.personId = some id → id ∈ persons.keys
  concerned : ∀ row ∈ alerts.rows, ∀ id, row.personId = some id → id ∈ persons.keys

namespace Tables

@[ext] theorem ext {first second : Tables} (tracking : first.tracking = second.tracking)
    (fire : first.fire = second.fire) (persons : first.persons = second.persons)
    (alerts : first.alerts = second.alerts) : first = second := by
  cases first
  cases second
  cases tracking
  cases fire
  cases persons
  cases alerts
  rfl

/-- No rows. -/
def empty : Tables where
  tracking := .empty
  fire := .empty
  persons := .empty
  alerts := .empty
  attributed _ member := by cases member
  concerned _ member := by cases member

def deleteTracking (tables : Tables) (ids : List Uuid) : Tables :=
  { tables with
    tracking := tables.tracking.delete ids
    attributed := fun row member => tables.attributed row (Table.mem_delete.mp member).1 }

def deleteFire (tables : Tables) (ids : List Uuid) : Tables :=
  { tables with fire := tables.fire.delete ids }

def deleteAlerts (tables : Tables) (ids : List Uuid) : Tables :=
  { tables with
    alerts := tables.alerts.delete ids
    concerned := fun row member => tables.concerned row (Table.mem_delete.mp member).1 }

/-- Persons gone, and the references to them set to null. -/
def deletePersons (tables : Tables) (ids : List Uuid) : Tables where
  tracking := tables.tracking.update (TrackingRow.detach ids) fun _ => rfl
  fire := tables.fire
  persons := tables.persons.delete ids
  alerts := tables.alerts.update (AlertRow.detach ids) fun _ => rfl
  attributed := by
    intro row member id refers
    obtain ⟨old, was, rfl⟩ := Table.mem_update.mp member
    obtain ⟨before, kept⟩ := detach_eq_some.mp refers
    exact Table.mem_keys_delete.mpr ⟨tables.attributed old was id before, kept⟩
  concerned := by
    intro row member id refers
    obtain ⟨old, was, rfl⟩ := Table.mem_update.mp member
    obtain ⟨before, kept⟩ := detach_eq_some.mp refers
    exact Table.mem_keys_delete.mpr ⟨tables.concerned old was id before, kept⟩

@[simp] theorem deleteTracking_nil (tables : Tables) : tables.deleteTracking [] = tables := by
  ext1
  · exact Table.delete_nil _
  all_goals rfl

@[simp] theorem deleteFire_nil (tables : Tables) : tables.deleteFire [] = tables := by
  ext1
  · rfl
  · exact Table.delete_nil _
  all_goals rfl

@[simp] theorem deletePersons_nil (tables : Tables) : tables.deletePersons [] = tables := by
  ext1
  · ext1
    exact @Table.rows_update_of_fixed _ _ _ tables.tracking (TrackingRow.detach []) (fun _ => rfl)
      fun _ _ => TrackingRow.detach_of_kept fun _ _ => List.not_mem_nil
  · rfl
  · exact Table.delete_nil _
  · ext1
    exact @Table.rows_update_of_fixed _ _ _ tables.alerts (AlertRow.detach []) (fun _ => rfl)
      fun _ _ => AlertRow.detach_of_kept fun _ _ => List.not_mem_nil

end Tables

/-- What a session has deleted. -/
inductive Delete
  | tracking (ids : List Uuid)
  | fire (ids : List Uuid)
  | alerts (ids : List Uuid)
  | persons (ids : List Uuid)
deriving DecidableEq, Repr

/-- One deletion applied. -/
def Tables.apply (tables : Tables) : Delete → Tables
  | .tracking ids => tables.deleteTracking ids
  | .fire ids => tables.deleteFire ids
  | .alerts ids => tables.deleteAlerts ids
  | .persons ids => tables.deletePersons ids

/-- All deletions of a session applied. -/
def Tables.applyAll (tables : Tables) (deletes : List Delete) : Tables :=
  deletes.foldl Tables.apply tables

/-! ## All stores -/

/-- The committed tables, what the job's session has deleted, and the other stores. -/
structure Stores where
  tables : Tables
  session : List Delete
  qdrant : Qdrant
  minio : Minio

namespace Stores

/-- The tables as the session sees them. -/
def view (stores : Stores) : Tables := stores.tables.applyAll stores.session

/-- One more deletion. -/
def collect (stores : Stores) (delete : Delete) : Stores :=
  { stores with session := stores.session ++ [delete] }

/-- A session without deletions. -/
def cleared (stores : Stores) : Stores := { stores with session := [] }

/-- The deletions made permanent. -/
def committed (stores : Stores) : Stores :=
  { stores with tables := stores.view, session := [] }

/-- A client of Qdrant that has not looked for the collection, and a new session. -/
def opened (stores : Stores) : Stores :=
  { stores with session := [], qdrant := { stores.qdrant with checked := false } }

def setTables (stores : Stores) (tables : Tables) : Stores := { stores with tables }

def setQdrant (stores : Stores) (qdrant : Qdrant) : Stores := { stores with qdrant }

def setMinio (stores : Stores) (minio : Minio) : Stores := { stores with minio }

end Stores

end PersonTracking.Scheduler
