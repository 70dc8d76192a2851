import PersonTracking.Library.Pool
import PersonTracking.Scheduler.Cleanup

/-!
# Persons who are seen while the job runs

Between any two calls of the job a transaction of the analytics service may
commit.  What it commits is a `Sighting`: the person row as `upsert_person`
saves it, and the tracking row.  It waits while the job holds the person row
deleted and not yet committed.  The service also writes vectors of persons.
-/

namespace PersonTracking.Scheduler

open Library Python Shared

/-! ## What a transaction commits -/

/-- `Person.update_appearance`. -/
def PersonRow.updateAppearance (row : PersonRow) (timestamp : Instant) : PersonRow :=
  { row with
    firstSeen := if timestamp < row.firstSeen then timestamp else row.firstSeen
    lastSeen := if row.lastSeen < timestamp then timestamp else row.lastSeen
    totalAppearances := row.totalAppearances + 1 }

/-- A person event of the analytics service: the person it is attributed to,
whether `get_by_id` has found a row, and the tracking row. -/
structure Sighting where
  personId : Uuid
  known : Bool
  event : TrackingRow

namespace Sighting

/-- When the person was seen. -/
def timestamp (sighting : Sighting) : Instant := sighting.event.timestamp

/-- The tracking row, attributed. -/
def trackingRow (sighting : Sighting) : TrackingRow :=
  { sighting.event with personId := some sighting.personId }

/-- The row of a person nobody has found: the event is the first appearance. -/
def firstRow (sighting : Sighting) : PersonRow where
  id := sighting.personId
  displayName := none
  firstSeen := sighting.timestamp
  lastSeen := sighting.timestamp
  totalAppearances := 1
  createdAt := sighting.event.createdAt

/-- How `upsert_person` changes an existing row: the appearance is counted, or,
when `get_by_id` had found no row, everything but the creation time starts over. -/
def change (sighting : Sighting) (row : PersonRow) : PersonRow :=
  if row.id = sighting.personId then
    if sighting.known then row.updateAppearance sighting.timestamp
    else { sighting.firstRow with createdAt := row.createdAt }
  else row

theorem id_change (sighting : Sighting) (row : PersonRow) : (sighting.change row).id = row.id := by
  unfold change
  split
  · rename_i same
    split
    · rfl
    · exact same.symm
  · rfl

/-- What a row may become. -/
theorem change_cases (sighting : Sighting) (row : PersonRow) :
    sighting.change row = row ∨ (row.id = sighting.personId ∧
      ((sighting.change row).lastSeen = row.lastSeen ∨
        (sighting.change row).lastSeen = sighting.timestamp)) := by
  unfold change
  split
  · rename_i same
    refine Or.inr ⟨same, ?_⟩
    split
    · unfold PersonRow.updateAppearance
      dsimp only
      split
      · exact Or.inr rfl
      · exact Or.inl rfl
    · exact Or.inr rfl
  · exact Or.inl rfl

end Sighting

namespace Tables

/-- Persons replaced by a table that has their keys. -/
def setPersons (tables : Tables) (persons : Table Uuid PersonRow PersonRow.id)
    (grows : ∀ id ∈ tables.persons.keys, id ∈ persons.keys) : Tables :=
  { tables with
    persons := persons
    attributed := fun row here id refers => grows id (tables.attributed row here id refers)
    concerned := fun row here id refers => grows id (tables.concerned row here id refers) }

/-- One more tracking row. -/
def addTracking (tables : Tables) (row : TrackingRow) (fresh : row.id ∉ tables.tracking.keys)
    (refers : ∀ id, row.personId = some id → id ∈ tables.persons.keys) : Tables :=
  { tables with
    tracking := tables.tracking.insert row fresh
    attributed := by
      intro other member id attribution
      rcases Table.mem_insert.mp member with was | rfl
      · exact tables.attributed other was id attribution
      · exact refers id attribution }

/-- The person row of a sighting saved; `none` when the row that `get_by_id` has
found is not there. -/
def savePerson (tables : Tables) (sighting : Sighting) : Option Tables :=
  if missing : sighting.personId ∉ tables.persons.keys then
    if sighting.known then none
    else some (tables.setPersons (tables.persons.insert sighting.firstRow missing)
      fun _ here => Table.mem_keys_insert.mpr (Or.inl here))
  else some (tables.setPersons (tables.persons.update sighting.change sighting.id_change)
    fun id here => by rw [Table.keys_update]; exact here)

theorem mem_persons_savePerson {tables after : Tables} {sighting : Sighting}
    (saved : tables.savePerson sighting = some after) :
    sighting.personId ∈ after.persons.keys := by
  unfold savePerson at saved
  split at saved
  · rename_i missing
    split at saved
    · cases saved
    · cases saved
      show sighting.personId ∈ (tables.persons.insert sighting.firstRow missing).keys
      exact Table.mem_keys_insert.mpr (Or.inr rfl)
  · rename_i there
    cases saved
    show sighting.personId ∈ (tables.persons.update sighting.change sighting.id_change).keys
    rw [Table.keys_update]
    exact not_not.mp there

/-- The commit of a sighting; `none` when a constraint refuses it. -/
def record (tables : Tables) (sighting : Sighting) : Option Tables :=
  match saved : tables.savePerson sighting with
  | none => none
  | some after =>
      if fresh : sighting.trackingRow.id ∉ after.tracking.keys then
        some (after.addTracking sighting.trackingRow fresh fun _ refers =>
          Option.some_inj.mp refers ▸ mem_persons_savePerson saved)
      else none

/-- What a person row may be after a sighting was saved. -/
theorem person_of_savePerson {tables after : Tables} {sighting : Sighting}
    (saved : tables.savePerson sighting = some after) :
    after.tracking = tables.tracking ∧ ∀ person ∈ after.persons.rows,
      person ∈ tables.persons.rows ∨ (person.id = sighting.personId ∧
        (person.lastSeen = sighting.timestamp ∨
          ∃ old ∈ tables.persons.rows, old.id = sighting.personId ∧
            person.lastSeen = old.lastSeen)) := by
  unfold savePerson at saved
  split at saved
  · rename_i missing
    split at saved
    · cases saved
    · cases saved
      refine ⟨rfl, fun person member => ?_⟩
      have inserted : person ∈ (tables.persons.insert sighting.firstRow missing).rows := member
      rcases Table.mem_insert.mp inserted with was | rfl
      · exact Or.inl was
      · exact Or.inr ⟨rfl, Or.inl rfl⟩
  · cases saved
    refine ⟨rfl, fun person member => ?_⟩
    have updated : person ∈ (tables.persons.update sighting.change sighting.id_change).rows :=
      member
    obtain ⟨old, was, rfl⟩ := Table.mem_update.mp updated
    rcases sighting.change_cases old with same | ⟨here, last | last⟩
    · rw [same]
      exact Or.inl was
    · exact Or.inr ⟨(sighting.id_change old).trans here, Or.inr ⟨old, was, here, last⟩⟩
    · exact Or.inr ⟨(sighting.id_change old).trans here, Or.inl last⟩

/-- **What a committed sighting leaves**: the tracking rows there were and the
new one, and nobody's row changed but that of the person seen. -/
theorem record_spec {tables after : Tables} {sighting : Sighting}
    (recorded : tables.record sighting = some after) :
    (∀ row, row ∈ after.tracking.rows ↔
      row ∈ tables.tracking.rows ∨ row = sighting.trackingRow) ∧
    ∀ person ∈ after.persons.rows,
      person ∈ tables.persons.rows ∨ (person.id = sighting.personId ∧
        (person.lastSeen = sighting.timestamp ∨
          ∃ old ∈ tables.persons.rows, old.id = sighting.personId ∧
            person.lastSeen = old.lastSeen)) := by
  unfold record at recorded
  split at recorded
  · cases recorded
  · rename_i between saved
    obtain ⟨same, persons⟩ := person_of_savePerson saved
    split at recorded
    · rename_i fresh
      cases recorded
      refine ⟨fun row => ?_, persons⟩
      rw [← same]
      show row ∈ (between.tracking.insert sighting.trackingRow fresh).rows ↔ _
      rw [Table.mem_insert]
    · cases recorded

end Tables

/-! ## The job amid the transactions -/

/-- The stores, and the persons the job has selected. -/
structure Site where
  stores : Stores
  selected : List Uuid

/-- What else may happen. -/
inductive Meanwhile
  | sighting (sighting : Sighting)
  | index (id : Uuid) (embedding metadata : Json)

/-- The job's session holds the row of this person deleted. -/
def Stores.Locked (stores : Stores) (id : Uuid) : Prop :=
  ∃ ids, Delete.persons ids ∈ stores.session ∧ id ∈ ids

instance (stores : Stores) (id : Uuid) : Decidable (stores.Locked id) :=
  decidable_of_iff (stores.session.any fun
    | .persons ids => ids.contains id
    | _ => false) (by
      rw [List.any_eq_true, Stores.Locked]
      constructor
      · rintro ⟨delete, member, holds⟩
        cases delete with
        | persons ids => exact ⟨ids, member, by simpa using holds⟩
        | tracking | fire | alerts => cases holds
      · rintro ⟨ids, member, listed⟩
        exact ⟨_, member, by simpa using listed⟩)

/-- The job. -/
abbrev JobPool : Type := Pool Unit Call Reply (Except PyError Unit) Site

/-- The persons the job has selected, after an answer. -/
def selectedAfter (selected : List Uuid) : (request : Call) → Reply request → List Uuid
  | .selectPersons _, .ok ids => ids
  | _, _ => selected

/-- What answers the job, and what happens besides. -/
def surroundings (engine : Engine) :
    Surroundings Unit Call Reply (Except PyError Unit) Site Failures Meanwhile where
  answer failures _ request site :=
    let outcome := Stores.handler failures engine request site.stores
    some (outcome.1, { stores := outcome.2
                       selected := selectedAfter site.selected request outcome.1 })
  happen
    | .sighting sighting, pool =>
        if pool.shared.stores.Locked sighting.personId then none
        else (pool.shared.stores.tables.record sighting).map fun tables =>
          { pool with shared := { pool.shared with stores := pool.shared.stores.setTables tables } }
    | .index id embedding metadata, pool =>
        if present : pool.shared.stores.qdrant.Present then
          some { pool with shared := { pool.shared with
            stores := pool.shared.stores.setQdrant (pool.shared.stores.qdrant.put present id
              ⟨.str id.toText, embedding, metadata⟩) } }
        else none

/-- The job before its first call. -/
def beginJob (settings : Settings) (now : Instant) (stores : Stores) : JobPool where
  shared := { stores := stores.cleared, selected := [] }
  residual _ := (executeCleanupJob settings now).run

end PersonTracking.Scheduler
