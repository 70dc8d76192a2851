import PersonTracking.Analytics.Stores
import PersonTracking.Library.Pool

/-!
# Workers on one database

Any number of analytics workers run `process_message_callback`, each in a
session of its own, against one PostgreSQL.  A `Server` is that database with
the sessions that are open and the rows they hold locked:

* `select … with_for_update()` waits while another session holds the row, and
  locks it where there is one; a missing row is not locked;
* a commit sends the writes of its session, all or none;
* the end of a transaction frees its rows.

Everything else the workers call — Qdrant, the producer, `uuid4` — answers what
the moment says, and the moment may let a statement raise.  A worker may die
between any two calls; PostgreSQL then rolls its transaction back.  A commit that is
carried out although its worker hears of an error is, to the others, one whose worker
dies after it and receives its message again.
-/

namespace PersonTracking.Analytics

open Library Python Shared Domain

/-- PostgreSQL with the writes its sessions have collected and the sessions that
hold rows locked. -/
structure Server (ι : Type) where
  database : Database
  sessions : ι → List Write
  locks : Uuid → Option ι

variable {ι : Type} [DecidableEq ι]

namespace Server

/-- No rows and no transactions. -/
def start : Server ι where
  database := Database.empty
  sessions _ := []
  locks _ := none

/-- One more write in a session. -/
def collect (server : Server ι) (worker : ι) (write : Write) : Server ι :=
  { server with
    sessions := Function.update server.sessions worker (server.sessions worker ++ [write]) }

/-- A row locked. -/
def lock (server : Server ι) (worker : ι) (id : Uuid) : Server ι :=
  { server with locks := Function.update server.locks id (some worker) }

/-- A transaction ended: its writes are gone and its rows are free. -/
def release (server : Server ι) (worker : ι) : Server ι :=
  { server with
    sessions := Function.update server.sessions worker []
    locks := fun id => if server.locks id = some worker then none else server.locks id }

/-- Other tables. -/
def setDatabase (server : Server ι) (database : Database) : Server ι := { server with database }

/-- `SELECT … FOR UPDATE`; `none` while another transaction holds the row. -/
def select (server : Server ι) (worker : ι) (id : Uuid) :
    Option (Except PyError (Option Person) × Server ι) :=
  match server.database.persons id with
  -- there is nothing to lock: the row may come to be before the transaction ends
  | none => some (.ok none, server)
  | some row =>
      if server.locks id = none ∨ server.locks id = some worker then
        some (.ok (some row), server.lock worker id)
      else none

/-- A commit.  One that a constraint refuses leaves its transaction to the
rollback that follows. -/
def commit (server : Server ι) (worker : ι) : Except PyError Unit × Server ι :=
  match server.database.sendAll (server.sessions worker) with
  | some database => (.ok (), (server.release worker).setDatabase database)
  | none => (.error .sqlError, server)

/-- What answers a call at a moment.  The moment says what the other services
answer, and which statements raise. -/
def answer (moment : Program.Answers Call Reply) (worker : ι) :
    (request : Call) → Server ι → Option (Reply request × Server ι)
  | .openSession, server => some ((), server.release worker)
  | .selectPerson site id, server =>
      match moment (.selectPerson site id) with
      | .error error => some (.error error, server)
      | .ok _ => server.select worker id
  | .addPerson person, server => some ((), server.collect worker (.insertPerson person))
  | .updatePerson person, server => some ((), server.collect worker (.updatePerson person))
  | .addTrackingEvent event, server => some ((), server.collect worker (.insertEvent event))
  | .commit, server =>
      match moment .commit with
      | .error error => some (.error error, server)
      | .ok _ => some (server.commit worker)
  | .rollback, server => some (moment .rollback, server.release worker)
  | request, server => some (moment request, server)

end Server

/-- No person event without a time zone. -/
def isTimely (payload : Json) : Bool :=
  match readEvent payload with
  | .ok detection => detection.kind ≠ .person || detection.timestamp.isAware
  | .error _ => true

theorem isAware_of_isTimely {payload : Json} {detection : Detection}
    (timely : isTimely payload = true) (read : readEvent payload = .ok detection)
    (person : detection.kind = .person) : detection.timestamp.isAware = true := by
  simpa [isTimely, read, person] using timely

/-- What happens to a worker from outside. -/
inductive Happening (ι : Type)
  | receive (worker : ι) (payload : Json)
  | crash (worker : ι)

/-- The workers with their server. -/
abbrev WorkerPool (ι : Type) : Type := Pool ι Call Reply (Except PyError Unit) (Server ι)

namespace Workers

/-- What happens to a worker: while idle it receives a message, once or again (person
events with a time zone, and anything else), and at any time it may die. -/
def happen : Happening ι → WorkerPool ι → Option (WorkerPool ι)
  | .receive worker payload, pool =>
      match pool.residual worker with
      | .call _ _ => none
      | .done _ =>
          if isTimely payload then
            some (pool.resume worker (processMessageCallback payload).run pool.shared)
          else none
  | .crash worker, pool =>
      some (pool.resume worker (.done (.ok ())) (pool.shared.release worker))

/-- The surroundings of the workers. -/
def surroundings : Surroundings ι Call Reply (Except PyError Unit) (Server ι)
    (Program.Answers Call Reply) (Happening ι) where
  answer := Server.answer
  happen := happen

/-- Idle workers on empty tables. -/
def start : WorkerPool ι where
  shared := Server.start
  residual _ := .done (.ok ())

end Workers

end PersonTracking.Analytics
