import PersonTracking.Scheduler.Retention
import PersonTracking.Scheduler.Sightings

/-!
# `last_seen` bounds the events of a person

Every sighting that counts the row it finds keeps `last_seen` at or after the
events of the person, and so does whatever the job deletes.  A sighting that
starts a row over, because its transaction had looked for the row too early, may
break it.
-/

namespace PersonTracking.Scheduler

open Library Python Shared

/-- A sighting that counts the row it finds, or finds none. -/
def Sighting.Counts (sighting : Sighting) (tables : Tables) : Prop :=
  sighting.known = true ∨ sighting.personId ∉ tables.persons.keys

instance (sighting : Sighting) (tables : Tables) : Decidable (sighting.Counts tables) :=
  inferInstanceAs (Decidable (_ ∨ _))

/-- A counted appearance never moves `last_seen` back. -/
theorem le_lastSeen_updateAppearance (row : PersonRow) (timestamp : Instant) :
    row.lastSeen ≤ (row.updateAppearance timestamp).lastSeen ∧
      timestamp ≤ (row.updateAppearance timestamp).lastSeen := by
  unfold PersonRow.updateAppearance
  dsimp only
  split
  · rename_i later
    exact ⟨later.le, le_refl _⟩
  · rename_i earlier
    exact ⟨le_refl _, not_lt.mp earlier⟩

/-- How a counted sighting leaves the persons. -/
theorem Tables.persons_of_counts {tables after : Tables} {sighting : Sighting}
    (counts : sighting.Counts tables) (saved : tables.savePerson sighting = some after) :
    ∀ person ∈ after.persons.rows,
      (person ∈ tables.persons.rows ∧ person.id ≠ sighting.personId) ∨
        (person.id = sighting.personId ∧ sighting.timestamp ≤ person.lastSeen ∧
          ∀ old ∈ tables.persons.rows, old.id = person.id → old.lastSeen ≤ person.lastSeen) := by
  unfold savePerson at saved
  split at saved
  · rename_i missing
    split at saved
    · cases saved
    · cases saved
      intro person member
      have inserted : person ∈ (tables.persons.insert sighting.firstRow missing).rows := member
      rcases Table.mem_insert.mp inserted with was | rfl
      · exact Or.inl ⟨was, fun same => missing (same ▸ List.mem_map_of_mem was)⟩
      · exact Or.inr ⟨rfl, le_refl _, fun old was same =>
          absurd (Table.mem_keys.mpr ⟨old, was, same⟩) missing⟩
  · rename_i there
    have known := counts.resolve_right there
    cases saved
    intro person member
    have updated : person ∈ (tables.persons.update sighting.change sighting.id_change).rows :=
      member
    obtain ⟨row, was, rfl⟩ := Table.mem_update.mp updated
    by_cases same : row.id = sighting.personId
    · have counted : sighting.change row = row.updateAppearance sighting.timestamp := by
        rw [Sighting.change, if_pos same, if_pos known]
      obtain ⟨later, seen⟩ := le_lastSeen_updateAppearance row sighting.timestamp
      -- there is one row under the key, and it was counted
      rw [counted]
      refine Or.inr ⟨same, seen, fun old there theirs => ?_⟩
      rw [Table.eq_of_key_eq there was theirs]
      exact later
    · have fixed : sighting.change row = row := by rw [Sighting.change, if_neg same]
      rw [fixed]
      exact Or.inl ⟨was, same⟩

/-- **A counted sighting** leaves nobody seen after `last_seen`. -/
theorem Tables.Bounded.record {tables after : Tables} {sighting : Sighting}
    (bounded : tables.Bounded) (counts : sighting.Counts tables)
    (recorded : tables.record sighting = some after) : after.Bounded := by
  obtain ⟨rows, -⟩ := Tables.record_spec recorded
  unfold Tables.record at recorded
  split at recorded
  · cases recorded
  · rename_i between saved
    split at recorded
    · cases recorded
      intro person here row there refers
      rcases Tables.persons_of_counts counts saved person here with
        ⟨was, other⟩ | ⟨same, seen, before⟩
      · rcases (rows row).mp there with old | rfl
        · exact bounded person was row old refers
        · exact absurd (Option.some_inj.mp refers).symm other
      · rcases (rows row).mp there with old | rfl
        · obtain ⟨owner, was, theirs⟩ :=
            Table.mem_keys.mp (tables.attributed row old person.id refers)
          rw [← theirs] at refers
          exact (bounded owner was row old refers).trans (before owner was theirs)
        · exact seen
    · cases recorded

/-- **Deletions** leave nobody seen after `last_seen`. -/
theorem Tables.Bounded.apply {tables : Tables} (bounded : tables.Bounded) (delete : Delete) :
    (tables.apply delete).Bounded := by
  cases delete with
  | fire | alerts => exact bounded
  | tracking ids =>
      intro person here row there refers
      exact bounded person here row (Table.mem_delete.mp there).1 refers
  | persons ids =>
      intro person here row there refers
      obtain ⟨old, was, rfl⟩ := List.mem_map.mp there
      exact bounded person (Table.mem_delete.mp here).1 old was (detach_eq_some.mp refers).1

theorem Tables.Bounded.applyAll {tables : Tables} (bounded : tables.Bounded)
    (session : List Delete) : (tables.applyAll session).Bounded := by
  induction session generalizing tables with
  | nil => exact bounded
  | cons delete rest ih => exact ih (bounded.apply delete)

/-- Nor does any call of the job. -/
theorem bounded_handler {failures : Failures} {engine : Engine} {request : Call} {stores : Stores}
    (bounded : stores.tables.Bounded) :
    (Stores.handler failures engine request stores).2.tables.Bounded := by
  have statement : ∀ {α : Type} (raised : Bool) (done : α × Stores), done.2.tables.Bounded →
      (unlessRaised raised stores done).2.tables.Bounded := by
    intro α raised done after
    cases raised with
    | true => exact bounded
    | false => exact after
  cases request with
  | openClients | qdrant _ | minio _ | rollback | close => exact bounded
  | selectTracking _ | selectFire _ | selectPersons _ => exact statement _ _ bounded
  | deleteTracking _ | deleteFire _ | deleteAlerts _ | deletePersons _ =>
      exact statement _ _ bounded
  | commit => exact statement _ _ (bounded.applyAll stores.session)

end PersonTracking.Scheduler
