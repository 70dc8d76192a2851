import PersonTracking.Analytics.UseCase

/-!
# The stores behind the analytics service

What the calls of `UseCase` do: to PostgreSQL (`Database`), to Qdrant and to
the alert producer.  A session sends its writes when it commits, all or none of
them.  How the calls fail is given from outside: a commit that raises may have
been carried out, when only its answer is lost.

The tables carry their constraints: a person row lies under its primary key,
and a tracking row refers to a person row that is there.
-/

namespace PersonTracking.Analytics

open Library Python Shared Domain

/-! ## PostgreSQL -/

/-- The tables `persons` and `tracking_events`.  A time stands for its instant; the
database gives it back in UTC. -/
structure Database where
  persons : Uuid → Option Person
  events : List TrackingEvent
  keyed : ∀ id person, persons id = some person → person.id = id
  attributed : ∀ event ∈ events, ∀ id, event.personId = some id → (persons id).isSome = true

/-- A write a session has collected. -/
inductive Write
  | insertPerson (person : Person)
  | updatePerson (person : Person)
  | insertEvent (event : TrackingEvent)

namespace Database

variable {db after : Database}

/-- No rows. -/
def empty : Database where
  persons _ := none
  events := []
  keyed _ _ found := by cases found
  attributed _ member := by cases member

/-- The person row under its key. -/
def putPerson (db : Database) (person : Person) : Database where
  persons := Function.update db.persons person.id (some person)
  events := db.events
  keyed := by
    intro id row found
    rw [Function.update_apply] at found
    split at found
    · rename_i here
      cases found
      exact here.symm
    · exact db.keyed id row found
  attributed := by
    intro event member id attribution
    rw [Function.update_apply]
    split
    · rfl
    · exact db.attributed event member id attribution

/-- The person row an event refers to is there, if it refers to one. -/
def Refers (db : Database) (event : TrackingEvent) : Prop :=
  ∀ id, event.personId = some id → (db.persons id).isSome = true

instance (db : Database) (event : TrackingEvent) : Decidable (db.Refers event) :=
  match attribution : event.personId with
  | none => isTrue fun id same => by rw [attribution] at same; cases same
  | some id =>
      if row : (db.persons id).isSome = true then
        isTrue fun other same => by
          rw [attribution, Option.some.injEq] at same
          rwa [← same]
      else isFalse fun refers => row (refers id attribution)

/-- One more tracking row. -/
def addEvent (db : Database) (event : TrackingEvent) (refers : db.Refers event) : Database where
  persons := db.persons
  events := db.events ++ [event]
  keyed := db.keyed
  attributed := by
    intro other member
    rcases List.mem_append.mp member with before | this
    · exact db.attributed other before
    · rw [List.mem_singleton.mp this]
      exact refers

/-- Send a write; `none` when a constraint refuses it: an existing primary key,
an updated row or a referenced row that is missing. -/
def send (db : Database) : Write → Option Database
  | .insertPerson person =>
      if (db.persons person.id).isSome then none else some (db.putPerson person)
  | .updatePerson person =>
      if (db.persons person.id).isSome then some (db.putPerson person) else none
  | .insertEvent event =>
      if refers : db.Refers event then
        if event.id ∈ db.events.map TrackingEvent.id then none else some (db.addEvent event refers)
      else none

/-- Send the writes of a session in their order, all or none. -/
def sendAll (db : Database) (writes : List Write) : Option Database := writes.foldlM send db

@[simp] theorem sendAll_nil : db.sendAll [] = some db := rfl

theorem sendAll_cons {write : Write} {rest : List Write} :
    db.sendAll (write :: rest) = (db.send write).bind fun next => next.sendAll rest := rfl

theorem send_insertPerson {person : Person} (missing : db.persons person.id = none) :
    db.send (.insertPerson person) = some (db.putPerson person) :=
  if_neg (by rw [missing]; decide)

theorem send_updatePerson {person row : Person} (found : db.persons person.id = some row) :
    db.send (.updatePerson person) = some (db.putPerson person) := if_pos (by rw [found]; rfl)

/-- The write with which `upsert_person` saves a person, given the row it read. -/
def personWrite (row : Option Person) (person : Person) : Write :=
  match row with
  | none => .insertPerson person
  | some _ => .updatePerson person

/-- Saving a person against the table it was read from succeeds. -/
theorem send_personWrite (person : Person) :
    db.send (personWrite (db.persons person.id) person) = some (db.putPerson person) := by
  cases found : db.persons person.id with
  | none => exact send_insertPerson found
  | some row => exact send_updatePerson found

/-- A session that saves a person and an event changes no other person and adds
one event, if it is accepted. -/
theorem sendAll_sighting_eq_some {person : Person} {event : TrackingEvent}
    (sent : db.sendAll [personWrite (db.persons person.id) person, .insertEvent event] =
      some after) :
    after.persons = Function.update db.persons person.id (some person) ∧
      after.events = db.events ++ [event] := by
  rw [sendAll_cons, send_personWrite, Option.bind_some, sendAll_cons] at sent
  obtain ⟨final, accepted, rfl⟩ : ∃ final, (db.putPerson person).send (.insertEvent event) =
      some final ∧ final = after := by
    simpa [Option.bind_eq_some_iff] using sent
  simp only [send] at accepted
  split at accepted
  · split at accepted
    · cases accepted
    · cases accepted
      exact ⟨rfl, rfl⟩
  · cases accepted

/-- **A session that saves a person and an event of that person** leaves both rows. -/
theorem sendAll_sighting (person : Person) {event : TrackingEvent}
    (attribution : event.personId = some person.id)
    (unused : event.id ∉ db.events.map TrackingEvent.id) :
    ∃ after, db.sendAll [personWrite (db.persons person.id) person, .insertEvent event] =
        some after ∧ after.persons = Function.update db.persons person.id (some person) ∧
      after.events = db.events ++ [event] := by
  have refers : (db.putPerson person).Refers event := by
    intro id same
    rw [attribution, Option.some.injEq] at same
    subst same
    show (Function.update db.persons person.id (some person) person.id).isSome = true
    rw [Function.update_self]
    rfl
  refine ⟨(db.putPerson person).addEvent event refers, ?_, rfl, rfl⟩
  rw [sendAll_cons, send_personWrite, Option.bind_some, sendAll_cons]
  simp only [send]
  rw [dif_pos refers, if_neg (show event.id ∉ (db.putPerson person).events.map _ from unused)]
  rfl

end Database

/-! ## All stores -/

/-- What the service runs against: the stores, the writes its session has
collected, the alerts its producer has accepted and the UUIDs still to be minted. -/
structure World where
  qdrant : Qdrant
  database : Database
  session : List Write
  alerts : List (String × Json)
  entropy : ℕ → Uuid

namespace World

/-- One more write in the session. -/
def collect (world : World) (write : Write) : World :=
  { world with session := world.session ++ [write] }

/-- The next UUID gone. -/
def minted (world : World) : World := { world with entropy := fun n => world.entropy (n + 1) }

/-- A session without writes. -/
def cleared (world : World) : World := { world with session := [] }

@[simp] theorem entropy_cleared (world : World) : world.cleared.entropy = world.entropy := rfl

def setQdrant (world : World) (qdrant : Qdrant) : World := { world with qdrant }

@[simp] theorem entropy_setQdrant (world : World) (qdrant : Qdrant) :
    (world.setQdrant qdrant).entropy = world.entropy := rfl

/-- What a commit does, unless it raises for a reason outside the tables. -/
def commit (world : World) : Except PyError Unit × World :=
  match world.database.sendAll world.session with
  | some database => (.ok (), { world.cleared with database })
  | none => (.error .sqlError, world)

/-- A commit carried out whose answer is lost: its session is left to the rollback
that follows. -/
def commitUnheard (world : World) : World :=
  match world.database.sendAll world.session with
  | some database => { world with database }
  | none => world

/-- What the calls do, given how they fail.  Selecting a row sends nothing: no part
of the service selects after it has collected a write. -/
def handler (faults : Program.Faults Call) (engine : Engine) : Program.Handler Call Reply World
  | .openSession, world => ((), world.cleared)
  | .qdrant request, world =>
      Program.Handler.focus World.qdrant World.setQdrant
        (Qdrant.handler (faults.within Call.qdrant) engine) request world
  | .uuid4, world => (world.entropy 0, world.minted)
  | .selectPerson site id, world =>
      if faults.raises (.selectPerson site id) then (.error .sqlError, world)
      else (.ok (world.database.persons id), world)
  | .addPerson person, world => ((), world.collect (.insertPerson person))
  | .updatePerson person, world => ((), world.collect (.updatePerson person))
  | .addTrackingEvent event, world => ((), world.collect (.insertEvent event))
  | .dumps event, world =>
      if faults.raises (.dumps event) then (.error .typeError, world) else (.ok (), world)
  | .produce topic key event, world =>
      if faults.raises (.produce topic key event) then (.error .kafkaError, world)
      else (.ok (), { world with alerts := world.alerts ++ [(topic, event)] })
  | .pollProducer, world =>
      if faults.raises .pollProducer then (.error .kafkaError, world) else (.ok (), world)
  | .commit, world =>
      if faults.raises .commit then
        (.error .sqlError, if faults.applied .commit then world.commitUnheard else world)
      else world.commit
  | .rollback, world =>
      (if faults.raises .rollback then .error .sqlError else .ok (), world.cleared)

/-- Only a commit changes the tables. -/
theorem database_handler {faults : Program.Faults Call} {engine : Engine} {request : Call}
    {world : World}
    (kept : request ≠ .commit) :
    (handler faults engine request world).2.database = world.database := by
  cases request with
  | commit => exact absurd rfl kept
  | openSession | uuid4 | rollback => rfl
  | qdrant _ | addPerson _ | updatePerson _ | addTrackingEvent _ => rfl
  | selectPerson _ _ | dumps _ | produce _ _ _ | pollProducer =>
      simp only [handler]
      split <;> rfl

/-- No UUID still to be minted is in use. -/
structure Fresh (world : World) : Prop where
  points : ∀ n, world.qdrant.points (.str (world.entropy n).toText) = none
  events : ∀ n, world.entropy n ∉ world.database.events.map TrackingEvent.id

/-- Empty tables, an empty collection, and UUIDs counted up. -/
def empty : World where
  qdrant := Qdrant.empty
  database := Database.empty
  session := []
  alerts := []
  entropy n := ⟨n % 2 ^ 128, Uuid.mod_bound n⟩

theorem fresh_empty : empty.Fresh where
  points _ := rfl
  events _ member := by cases member

end World

end PersonTracking.Analytics
