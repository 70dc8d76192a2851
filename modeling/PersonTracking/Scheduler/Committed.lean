import PersonTracking.Analytics.Appearances
import PersonTracking.Scheduler.Sightings

/-!
# Sightings are what the analytics service commits

The retention job and the analytics service each have a model of the tables they
share.  `Shows` says that the one holds what the other holds, as far as both
look: instants for date-times, and nothing of what only one of them reads.

`record_of_sights` connects the two: where a transaction of the analytics service
commits the sighting of a person, the tables of the job record a `Sighting`, and
they go on showing the same.  What the transaction has read has to be up to date,
which its row locks provide (`upToDate_of_tracks`).
-/

namespace PersonTracking.Scheduler

open Library Python Shared Domain

/-- A row of `persons` shows a person. -/
structure PersonRow.Shows (row : PersonRow) (person : Person) : Prop where
  id : row.id = person.id
  displayName : row.displayName = person.displayName
  firstSeen : row.firstSeen = person.firstSeen.instant
  lastSeen : row.lastSeen = person.lastSeen.instant
  totalAppearances : row.totalAppearances = person.totalAppearances

/-- A row of `tracking_events` shows an event. -/
structure TrackingRow.Shows (row : TrackingRow) (event : TrackingEvent) : Prop where
  id : row.id = event.id
  personId : row.personId = event.personId
  cameraId : row.cameraId = event.cameraId
  timestamp : row.timestamp = event.timestamp.instant

/-- The persons of the job's tables are those of the service, row by row. -/
structure Tables.ShowsPersons (tables : Tables) (persons : Uuid → Option Person) : Prop where
  rows : ∀ row ∈ tables.persons.rows, ∃ person, persons row.id = some person ∧ row.Shows person
  present : ∀ id person, persons id = some person → id ∈ tables.persons.keys

/-- Both tables are shown. -/
structure Tables.Shows (tables : Tables) (db : Analytics.Database) : Prop where
  persons : tables.ShowsPersons db.persons
  tracking : ∀ row ∈ tables.tracking.rows, ∃ event ∈ db.events, row.Shows event
  logged : ∀ event ∈ db.events, ∃ row ∈ tables.tracking.rows, row.Shows event

namespace Tables.ShowsPersons

variable {tables : Tables} {persons : Uuid → Option Person} {person : Person}

/-- The rows of the others show the same as before. -/
theorem elsewhere (shows : tables.ShowsPersons persons) {row : PersonRow}
    (member : row ∈ tables.persons.rows) (different : row.id ≠ person.id) :
    ∃ saved, Function.update persons person.id (some person) row.id = some saved ∧
      row.Shows saved := by
  obtain ⟨was, found, shown⟩ := shows.rows row member
  exact ⟨was, (Function.update_of_ne different _ _).trans found, shown⟩

/-- Nobody is there but those who were, and the person. -/
theorem present_update (shows : tables.ShowsPersons persons) {id : Uuid} {saved : Person}
    (found : Function.update persons person.id (some person) id = some saved) :
    id ∈ tables.persons.keys ∨ id = person.id := by
  by_cases same : id = person.id
  · exact Or.inr same
  · rw [Function.update_of_ne same] at found
    exact Or.inl (shows.present id saved found)

/-- A row is inserted for a person who had none. -/
theorem insert (shows : tables.ShowsPersons persons) {row : PersonRow} (shown : row.Shows person)
    (missing : row.id ∉ tables.persons.keys) (grows) :
    (tables.setPersons (tables.persons.insert row missing) grows).ShowsPersons
      (Function.update persons person.id (some person)) := by
  constructor
  · intro other member
    have inserted : other ∈ (tables.persons.insert row missing).rows := member
    rcases Table.mem_insert.mp inserted with was | rfl
    · refine shows.elsewhere was fun same => missing ?_
      exact Table.mem_keys.mpr ⟨other, was, same.trans shown.id.symm⟩
    · exact ⟨person, shown.id ▸ Function.update_self _ _ _, shown⟩
  · intro id saved found
    show id ∈ (tables.persons.insert row missing).keys
    rw [Table.mem_keys_insert, shown.id]
    exact shows.present_update found

/-- The row of a person is changed, and no other. -/
theorem update (shows : tables.ShowsPersons persons) {change : PersonRow → PersonRow}
    (keyed : ∀ row, (change row).id = row.id) (there : person.id ∈ tables.persons.keys)
    (alone : ∀ row, row.id ≠ person.id → change row = row)
    (changed : ∀ row was, row.id = person.id → persons person.id = some was → row.Shows was →
      (change row).Shows person) (grows) :
    (tables.setPersons (tables.persons.update change keyed) grows).ShowsPersons
      (Function.update persons person.id (some person)) := by
  constructor
  · intro other member
    have updated : other ∈ (tables.persons.update change keyed).rows := member
    obtain ⟨row, was, rfl⟩ := Table.mem_update.mp updated
    by_cases same : row.id = person.id
    · obtain ⟨before, found, shown⟩ := shows.rows row was
      refine ⟨person, ?_, changed row before same (same ▸ found) shown⟩
      rw [keyed, same, Function.update_self]
    · rw [alone row same]
      exact shows.elsewhere was same
  · intro id saved found
    show id ∈ (tables.persons.update change keyed).keys
    rw [Table.keys_update]
    rcases shows.present_update found with before | rfl
    · exact before
    · exact there

end Tables.ShowsPersons

/-- `update_appearance` does the same to a row as to the person it shows. -/
theorem PersonRow.Shows.updateAppearance {row : PersonRow} {person updated : Person}
    {timestamp : DateTime} (shows : row.Shows person)
    (counts : person.Counts timestamp updated) :
    (row.updateAppearance timestamp.instant).Shows updated := by
  constructor
  · exact shows.id.trans counts.id.symm
  · exact shows.displayName.trans counts.displayName.symm
  · rw [counts.first, ← shows.firstSeen, min_comm, min_def_lt]
    rfl
  · rw [counts.last, ← shows.lastSeen, max_def_lt]
    rfl
  · rw [counts.total, ← shows.totalAppearances]
    rfl

section Record

variable {tables : Tables} {db after : Analytics.Database} {draft : Analytics.Draft}
  {timestamp : DateTime} {person : Person} {event : TrackingEvent} {row : TrackingRow}

/-- Whether `get_by_id` has found a row. -/
def known (draft : Analytics.Draft) : Bool :=
  match draft.matched with
  | some (_, some _) => true
  | _ => false

theorem known_eq_false
    (unread : draft.matched = none ∨ draft.matched = some (person.id, none)) :
    known draft = false := by
  rcases unread with unmatched | missing
  · rw [known, unmatched]
  · rw [known, missing]

/-- The sighting a transaction commits. -/
def committedSighting (draft : Analytics.Draft) (person : Person) (row : TrackingRow) :
    Sighting where
  personId := person.id
  known := known draft
  event := row

/-- What the transaction has read is still so. -/
structure UpToDate (draft : Analytics.Draft) (person : Person)
    (db : Analytics.Database) : Prop where
  counted : ∀ old, draft.matched = some (person.id, some old) → db.persons person.id = some old
  aware : ∀ old, db.persons person.id = some old → old.Aware

/-- So it is for every worker whose draft is in step with the server. -/
theorem upToDate_of_tracks {ι : Type} [DecidableEq ι] {phases : ι → Json × Analytics.Draft}
    {server : Analytics.Server ι} (tracks : server.Tracks phases) (worker : ι) (person : Person) :
    UpToDate (phases worker).2 person server.database where
  counted old matched := ((tracks.holds worker).counted person.id old matched).2
  aware old found := tracks.summarised.aware person.id old found

/-- The row of the person after the sighting shows the person that is saved. -/
theorem shows_change (prepared : draft.Prepares timestamp person) (timed : timestamp.isAware = true)
    (upToDate : UpToDate draft person db) (dated : row.timestamp = timestamp.instant)
    {old : PersonRow} {was : Person} (same : old.id = person.id)
    (found : db.persons person.id = some was) (shows : old.Shows was) :
    ((committedSighting draft person row).change old).Shows person := by
  rw [Sighting.change,
    if_pos (show old.id = (committedSighting draft person row).personId from same)]
  rcases prepared with ⟨read, matched, counts⟩ | ⟨first, matched⟩
  · have current := upToDate.counted read matched
    rw [found, Option.some.injEq] at current
    subst current
    have counted := Person.counts_updateAppearance (upToDate.aware was found) timed counts
    have isKnown : (committedSighting draft person row).known = true := by
      show known draft = true
      rw [known, matched]
    rw [if_pos isKnown, Sighting.timestamp]
    exact dated ▸ shows.updateAppearance counted
  · have isNew : (committedSighting draft person row).known = false := known_eq_false matched
    rw [if_neg (isNew ▸ Bool.false_ne_true), first]
    exact ⟨rfl, rfl, dated, dated, rfl⟩

/-- The tables of the job take over the saved person. -/
theorem shows_savePerson (shows : tables.ShowsPersons db.persons)
    (prepared : draft.Prepares timestamp person) (timed : timestamp.isAware = true)
    (upToDate : UpToDate draft person db) (dated : row.timestamp = timestamp.instant) :
    ∃ between, tables.savePerson (committedSighting draft person row) = some between ∧
      between.tracking = tables.tracking ∧
      between.ShowsPersons (Function.update db.persons person.id (some person)) := by
  unfold Tables.savePerson
  split
  · rename_i missing
    -- without a row there was nothing to count, so the person is a first sighting
    have first : person = Analytics.firstSighting person.id timestamp ∧ known draft = false := by
      rcases prepared with ⟨read, matched, -⟩ | ⟨first, matched⟩
      · exact absurd (shows.present _ read (upToDate.counted read matched)) missing
      · exact ⟨first, known_eq_false matched⟩
    have isNew : (committedSighting draft person row).known = false := first.2
    have shown : (committedSighting draft person row).firstRow.Shows person := by
      rw [first.1]
      exact ⟨rfl, rfl, dated, dated, rfl⟩
    rw [if_neg (isNew ▸ Bool.false_ne_true)]
    exact ⟨_, rfl, rfl, shows.insert shown missing _⟩
  · rename_i there
    refine ⟨_, rfl, rfl, shows.update _ (not_not.mp there) (fun _ other => if_neg other) ?_ _⟩
    intro old was same found shown
    exact shows_change prepared timed upToDate dated same found shown

/-- **A committed sighting is a `Sighting`** of the job's tables: these record it,
and show what the transaction has left. -/
theorem record_of_sights (shows : tables.Shows db)
    (sights : draft.Sights timestamp person event) (timed : timestamp.isAware = true)
    (upToDate : UpToDate draft person db) (shown : row.Shows event)
    (sent : db.sendAll draft.session = some after) :
    ∃ later, tables.record (committedSighting draft person row) = some later ∧
      later.Shows after := by
  obtain ⟨read, -, written⟩ := sights.written
  rw [written] at sent
  obtain ⟨persons, events⟩ := Analytics.Database.sendAll_sights sent
  have dated : row.timestamp = timestamp.instant := shown.timestamp.trans (sights.timed ▸ rfl)
  have attributed : (committedSighting draft person row).trackingRow.Shows event :=
    ⟨shown.id, sights.attributed.symm, shown.cameraId, shown.timestamp⟩
  obtain ⟨between, saved, same, shows'⟩ :=
    shows_savePerson shows.persons sights.prepared timed upToDate dated
  have fresh : (committedSighting draft person row).trackingRow.id ∉ between.tracking.keys := by
    rw [same, Table.mem_keys]
    rintro ⟨other, member, identical⟩
    obtain ⟨logged, there, shown'⟩ := shows.tracking other member
    -- the primary key is the same in both models
    have sameId : logged.id = event.id := by
      rw [← shown'.id, identical]
      exact shown.id
    exact Analytics.Database.unused_of_sendAll sent (sameId ▸ List.mem_map_of_mem there)
  have refers : ∀ id, (committedSighting draft person row).trackingRow.personId = some id →
      id ∈ between.persons.keys := by
    intro id attribution
    have here : id = person.id := (Option.some_inj.mp attribution).symm
    exact here ▸ shows'.present person.id person (Function.update_self _ _ _)
  have inserted : ∀ other, other ∈ (between.addTracking _ fresh refers).tracking.rows ↔
      other ∈ between.tracking.rows ∨ other = (committedSighting draft person row).trackingRow :=
    fun other => @Table.mem_insert _ _ _ _ _ _ fresh
  refine ⟨between.addTracking _ fresh refers, ?_, ?_⟩
  · unfold Tables.record
    split
    · rename_i unsaved
      rw [saved] at unsaved
      cases unsaved
    · rename_i between' saved'
      rw [saved, Option.some.injEq] at saved'
      subst saved'
      rw [dif_pos fresh]
  · constructor
    · rw [persons]
      exact ⟨shows'.rows, shows'.present⟩
    · intro other member
      rw [events]
      rcases (inserted other).mp member with was | rfl
      · obtain ⟨logged, there, shown'⟩ := shows.tracking other (same ▸ was)
        exact ⟨logged, List.mem_append_left _ there, shown'⟩
      · exact ⟨event, List.mem_append_right _ (List.mem_singleton.mpr rfl), attributed⟩
    · intro logged member
      rw [events] at member
      rcases List.mem_append.mp member with there | this
      · obtain ⟨other, was, shown'⟩ := shows.logged logged there
        exact ⟨other, (inserted other).mpr (Or.inl (same ▸ was)), shown'⟩
      · rw [List.mem_singleton.mp this]
        exact ⟨_, (inserted _).mpr (Or.inr rfl), attributed⟩

end Record

end PersonTracking.Scheduler
