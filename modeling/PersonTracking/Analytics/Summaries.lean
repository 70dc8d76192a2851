import Mathlib.Order.Bounds.Basic
import PersonTracking.Analytics.Drafts

/-!
# A person row as a summary of the person's events

What the aggregate columns of `persons` are for: `total_appearances`,
`first_seen` and `last_seen` say how many tracking rows a person has and between
which instants they lie.  `Person.Summarises` is this relation between a row and
a list of instants.  A first appearance establishes it, `update_appearance`
carries it to one instant more, and `Summarised.sights` to a table in which a
transaction has saved a person and logged the event, provided that it counted
the row that was there.
-/

namespace PersonTracking.Domain

open Python

/-- A person row summarises instants: it counts them, and it spans them. -/
structure Person.Summarises (person : Person) (times : List Int) : Prop where
  total : person.totalAppearances = times.length
  first : IsLeast {t | t ∈ times} person.firstSeen.instant
  last : IsGreatest {t | t ∈ times} person.lastSeen.instant

namespace Person

variable {person updated : Person} {times : List Int} {timestamp : DateTime}

/-- The span is not reversed… -/
theorem Summarises.ordered (summarises : person.Summarises times) :
    person.firstSeen.instant ≤ person.lastSeen.instant :=
  summarises.first.2 summarises.last.1

/-- …and nobody has a row without having appeared. -/
theorem Summarises.positive (summarises : person.Summarises times) :
    1 ≤ person.totalAppearances := by
  rw [summarises.total]
  exact List.length_pos_of_mem summarises.first.1

/-- The instants with one more. -/
theorem setOf_mem_append_singleton (times : List Int) (instant : Int) :
    {t | t ∈ times ++ [instant]} = {t | t ∈ times} ∪ {instant} := by
  ext t
  rw [Set.mem_ofPred_eq, List.mem_append, List.mem_singleton]
  rfl

/-- Both ends of the span are known in UTC. -/
def Aware (person : Person) : Prop :=
  person.firstSeen.isAware = true ∧ person.lastSeen.isAware = true

/-- What a counted appearance makes of a row: one appearance more, and a span that
takes in its instant. -/
structure Counts (person : Person) (timestamp : DateTime) (updated : Person) : Prop where
  id : updated.id = person.id
  displayName : updated.displayName = person.displayName
  total : updated.totalAppearances = person.totalAppearances + 1
  first : updated.firstSeen.instant = min person.firstSeen.instant timestamp.instant
  last : updated.lastSeen.instant = max person.lastSeen.instant timestamp.instant
  aware : updated.Aware

/-- `update_appearance` compares instants where all times are aware. -/
theorem counts_updateAppearance (aware : person.Aware) (timed : timestamp.isAware = true)
    (counted : person.updateAppearance timestamp = .ok updated) :
    person.Counts timestamp updated := by
  obtain ⟨earlier, later, before, after, rfl⟩ := updateAppearance_eq_ok counted
  obtain ⟨awareFirst, awareLast⟩ := aware
  rw [DateTime.lt, if_pos (timed.trans awareFirst.symm), Except.ok.injEq] at before
  rw [DateTime.lt, if_pos (awareLast.trans timed.symm), Except.ok.injEq] at after
  subst before after
  simp only [decide_eq_true_eq]
  constructor
  · rfl
  · rfl
  · rfl
  · dsimp only
    split
    · rename_i moves
      exact (min_eq_right moves.le).symm
    · rename_i stays
      exact (min_eq_left (not_lt.mp stays)).symm
  · dsimp only
    split
    · rename_i moves
      exact (max_eq_right moves.le).symm
    · rename_i stays
      exact (max_eq_left (not_lt.mp stays)).symm
  · constructor
    · dsimp only
      split
      · exact timed
      · exact awareFirst
    · dsimp only
      split
      · exact timed
      · exact awareLast

/-- **A counted appearance** adds its instant to what the row summarises. -/
theorem Summarises.append (summarises : person.Summarises times)
    (counts : person.Counts timestamp updated) :
    updated.Summarises (times ++ [timestamp.instant]) := by
  constructor
  · rw [counts.total, summarises.total, List.length_append, List.length_singleton]
  · rw [counts.first, setOf_mem_append_singleton]
    exact summarises.first.union isLeast_singleton
  · rw [counts.last, setOf_mem_append_singleton]
    exact summarises.last.union isGreatest_singleton

end Person

end PersonTracking.Domain

namespace PersonTracking.Analytics

open Library Python Shared Domain

/-- **A first sighting** summarises its own instant. -/
theorem summarises_firstSighting (id : Uuid) (timestamp : DateTime) :
    (firstSighting id timestamp).Summarises [timestamp.instant] where
  total := rfl
  first := by simp [IsLeast, lowerBounds]
  last := by simp [IsGreatest, upperBounds]

namespace Database

variable {db after : Database} {person : Person} {event : TrackingEvent}

/-- The instants of the tracking rows of a person, in the order of the log. -/
def timesOf (db : Database) (id : Uuid) : List Int :=
  (db.events.filter fun event => event.personId = some id).map fun event => event.timestamp.instant

/-- A person without a row has no events. -/
theorem timesOf_eq_nil {id : Uuid} (missing : db.persons id = none) : db.timesOf id = [] := by
  rw [timesOf, List.map_eq_nil_iff, List.filter_eq_nil_iff]
  intro event member attributed
  have there := db.attributed event member id (of_decide_eq_true attributed)
  rw [missing] at there
  cases there

/-- One more event is one more instant of its person. -/
theorem timesOf_append (logged : after.events = db.events ++ [event])
    (attributed : event.personId = some person.id) (id : Uuid) :
    after.timesOf id =
      if id = person.id then db.timesOf id ++ [event.timestamp.instant] else db.timesOf id := by
  unfold timesOf
  rw [logged, List.filter_append, List.map_append]
  split
  · rename_i here
    rw [here, List.filter_cons_of_pos (by rw [attributed]; exact decide_eq_true rfl)]
    rfl
  · rename_i elsewhere
    have other : event.personId ≠ some id := by
      rw [attributed]
      intro same
      exact elsewhere (Option.some_inj.mp same).symm
    rw [List.filter_cons_of_neg (by rw [decide_eq_true_eq]; exact other)]
    exact List.append_nil _

/-- Every person row summarises the events of the person. -/
structure Summarised (db : Database) : Prop where
  rows : ∀ id person, db.persons id = some person → person.Summarises (db.timesOf id)
  aware : ∀ id person, db.persons id = some person → person.Aware

theorem summarised_empty : empty.Summarised where
  rows _ _ found := by cases found
  aware _ _ found := by cases found

/-- A row saved with its event keeps the table summarised, if it summarises the
event with those before. -/
theorem Summarised.save (summarised : db.Summarised)
    (saved : after.persons = Function.update db.persons person.id (some person))
    (logged : after.events = db.events ++ [event])
    (attributed : event.personId = some person.id)
    (summarises : person.Summarises (db.timesOf person.id ++ [event.timestamp.instant]))
    (aware : person.Aware) : after.Summarised := by
  have found : ∀ id row, after.persons id = some row →
      (id = person.id ∧ row = person) ∨ (id ≠ person.id ∧ db.persons id = some row) := by
    intro id row here
    rw [saved, Function.update_apply] at here
    split at here
    · rename_i same
      cases here
      exact Or.inl ⟨same, rfl⟩
    · rename_i elsewhere
      exact Or.inr ⟨elsewhere, here⟩
  constructor
  · intro id row here
    rw [timesOf_append logged attributed]
    obtain ⟨rfl, rfl⟩ | ⟨elsewhere, was⟩ := found id row here
    · rw [if_pos rfl]
      exact summarises
    · rw [if_neg elsewhere]
      exact summarised.rows id row was
  · intro id row here
    obtain ⟨rfl, rfl⟩ | ⟨-, was⟩ := found id row here
    · exact aware
    · exact summarised.aware id row was

/-- A sighting that is accepted was saved the way the table is. -/
theorem isSome_of_sendAll {row : Option Person}
    (sent : db.sendAll [personWrite row person, .insertEvent event] = some after) :
    row.isSome = (db.persons person.id).isSome := by
  rw [sendAll_cons] at sent
  obtain ⟨between, accepted, -⟩ := Option.bind_eq_some_iff.mp sent
  cases row with
  | none =>
      simp only [personWrite, send] at accepted
      split at accepted
      · cases accepted
      · rename_i missing
        exact (Bool.not_eq_true _ ▸ missing).symm
  | some old =>
      simp only [personWrite, send] at accepted
      split at accepted
      · rename_i there
        exact there.symm
      · cases accepted

/-- Saving a person logs no event. -/
theorem events_send_personWrite {row : Option Person} {between : Database}
    (sent : db.send (personWrite row person) = some between) : between.events = db.events := by
  cases row with
  | none =>
      simp only [personWrite, send] at sent
      split at sent
      · cases sent
      · cases sent
        rfl
  | some old =>
      simp only [personWrite, send] at sent
      split at sent
      · cases sent
        rfl
      · cases sent

/-- The event of a sighting that is accepted has a new id. -/
theorem unused_of_sendAll {row : Option Person}
    (sent : db.sendAll [personWrite row person, .insertEvent event] = some after) :
    event.id ∉ db.events.map TrackingEvent.id := by
  rw [sendAll_cons] at sent
  obtain ⟨between, saved, rest⟩ := Option.bind_eq_some_iff.mp sent
  rw [sendAll_cons] at rest
  obtain ⟨final, accepted, -⟩ := Option.bind_eq_some_iff.mp rest
  rw [← events_send_personWrite saved]
  intro used
  simp only [send, if_pos used] at accepted
  split at accepted
  · cases accepted
  · cases accepted

/-- How a sighting that is accepted changes the tables, whichever row was read. -/
theorem sendAll_sights {row : Option Person}
    (sent : db.sendAll [personWrite row person, .insertEvent event] = some after) :
    after.persons = Function.update db.persons person.id (some person) ∧
      after.events = db.events ++ [event] := by
  have same : personWrite row person = personWrite (db.persons person.id) person := by
    have agree := isSome_of_sendAll sent
    cases found : db.persons person.id with
    | none =>
        rw [found] at agree
        rw [Option.isSome_eq_false_iff.mp agree |> Option.isNone_iff_eq_none.mp]
    | some there =>
        rw [found] at agree
        obtain ⟨old, rfl⟩ := Option.isSome_iff_exists.mp agree
        rfl
  rw [same] at sent
  exact sendAll_sighting_eq_some sent

/-- **A transaction keeps the table summarised** if it counted the row that is
there, or there is none. -/
theorem Summarised.sights {draft : Draft} {timestamp : DateTime} (summarised : db.Summarised)
    (sights : draft.Sights timestamp person event) (timed : timestamp.isAware = true)
    (counted : ∀ old, draft.matched = some (person.id, some old) →
      db.persons person.id = some old)
    (unseen : draft.matched = none ∨ draft.matched = some (person.id, none) →
      db.persons person.id = none)
    (sent : db.sendAll draft.session = some after) : after.Summarised := by
  obtain ⟨row, -, written⟩ := sights.written
  rw [written] at sent
  obtain ⟨saved, logged⟩ := sendAll_sights sent
  have summarises : person.Summarises (db.timesOf person.id ++ [event.timestamp.instant]) ∧
      person.Aware := by
    rw [sights.timed]
    rcases sights.prepared with ⟨old, matched, counts⟩ | ⟨first, matched⟩
    · have there := counted old matched
      have counts := Person.counts_updateAppearance (summarised.aware _ _ there) timed counts
      exact ⟨(summarised.rows _ _ there).append counts, counts.aware⟩
    · -- no row, so by the foreign key no events either
      rw [timesOf_eq_nil (unseen matched), first]
      exact ⟨summarises_firstSighting _ _, timed, timed⟩
  exact summarised.save saved logged sights.attributed summarises.1 summarises.2

end Database

end PersonTracking.Analytics
