import PersonTracking.Scheduler.Stores

/-!
# The retention job

`executeCleanupJob` as a program over its calls: three selections, the deletions
in Qdrant and MinIO, whose exceptions it logs and forgets, then the deletions in
PostgreSQL and one commit.  An exception of PostgreSQL rolls the session back
and leaves the job.

`exec_executeCleanupJob` says what a run leaves behind, whichever calls fail.
-/

namespace PersonTracking.Scheduler

open Library Python Shared

/-! ## Calls -/

/-- The external calls of the job. -/
inductive Call
  | openClients
  | selectTracking (cutoff : Instant)
  | selectFire (cutoff : Instant)
  | selectPersons (cutoff : Instant)
  | qdrant (request : QdrantCall)
  | minio (request : MinioCall)
  | deleteTracking (ids : List Uuid)
  | deleteFire (ids : List Uuid)
  | deleteAlerts (cutoff : Instant)
  | deletePersons (ids : List Uuid)
  | commit
  | rollback
  | close

/-- Their answers.  Making the clients and closing the session cannot fail. -/
abbrev Reply : Call → Type
  | .openClients => Unit
  | .selectTracking _ => Except PyError (List (Uuid × Option Uuid × Option String))
  | .selectFire _ => Except PyError (List (Uuid × Option String))
  | .selectPersons _ => Except PyError (List Uuid)
  | .qdrant request => QdrantReply request
  | .minio request => MinioReply request
  | .deleteTracking _ => Except PyError Unit
  | .deleteFire _ => Except PyError Unit
  | .deleteAlerts _ => Except PyError ℕ
  | .deletePersons _ => Except PyError Unit
  | .commit => Except PyError Unit
  | .rollback => Except PyError Unit
  | .close => Unit

/-- A part of the job that may raise. -/
abbrev Job (α : Type) : Type := Fallible Call Reply PyError α

/-- Make a call. -/
def ask (request : Call) : Program Call Reply (Reply request) := Program.perform request

/-! ## The job -/

/-- The settings the job reads. -/
structure Settings where
  retentionDays : ℕ
  minioBucketCrops : String

/-- `datetime.now(timezone.utc) - timedelta(days=settings.RETENTION_DAYS)`. -/
def Settings.retentionCutoff (settings : Settings) (now : Instant) : Instant :=
  now - settings.retentionDays * 86400000000

/-- `crop_path.split("/", 1)`: the bucket is before the first slash, if there is one. -/
def Settings.cropObject (settings : Settings) (cropPath : String) : ObjectRef :=
  match cropPath.toList.dropWhile fun c => c ≠ '/' with
  | [] => { bucket := settings.minioBucketCrops, name := cropPath }
  | _ :: name =>
      { bucket := String.ofList (cropPath.toList.takeWhile fun c => c ≠ '/')
        name := String.ofList name }

/-- `[path for path in paths if path]`. -/
def truthy (paths : List (Option String)) : List String :=
  (paths.filterMap id).filter fun path => path ≠ ""

/-- B: the vectors of the expired persons. -/
def deleteVectors (expiredPersonIds : List Uuid) : Job Unit :=
  if expiredPersonIds = [] then pure ()
  else Fallible.swallow
    (Fallible.relabel Call.qdrant (QdrantVectorStore.deleteEmbeddings expiredPersonIds))

/-- C: the crops, one after the other. -/
def deleteCrops (settings : Settings) : List String → Job Unit
  | [] => pure ()
  | cropPath :: rest => do
      let object := settings.cropObject cropPath
      Fallible.swallow (Fallible.relabel Call.minio
        (MinioStorageClient.deleteObject object.bucket object.name))
      deleteCrops settings rest

/-- `if ids: await session.execute(…)`. -/
def unlessEmpty (ids : List Uuid) (statement : Job Unit) : Job Unit :=
  if ids = [] then pure () else statement

/-- D: the rows, and the commit. -/
def deleteRows (cutoff : Instant) (trackingIds fireIds expiredPersonIds : List Uuid) :
    Job Unit := do
  unlessEmpty trackingIds (Fallible.attempt (ask (.deleteTracking trackingIds)))
  unlessEmpty fireIds (Fallible.attempt (ask (.deleteFire fireIds)))
  let _rowcount : ℕ ← Fallible.attempt (ask (.deleteAlerts cutoff))
  unlessEmpty expiredPersonIds (Fallible.attempt (ask (.deletePersons expiredPersonIds)))
  Fallible.attempt (ask .commit)

/-- The `try` of `execute_cleanup_job`. -/
def cleanUp (settings : Settings) (cutoff : Instant) : Job Unit := do
  let trackingRows : List (Uuid × Option Uuid × Option String) ←
    Fallible.attempt (ask (.selectTracking cutoff))
  let fireRows : List (Uuid × Option String) ← Fallible.attempt (ask (.selectFire cutoff))
  let expiredPersonIds : List Uuid ← Fallible.attempt (ask (.selectPersons cutoff))
  deleteVectors expiredPersonIds
  deleteCrops settings (truthy (trackingRows.map fun row => row.2.2) ++
    truthy (fireRows.map fun row => row.2))
  deleteRows cutoff (trackingRows.map Prod.fst) (fireRows.map Prod.fst) expiredPersonIds

/-- `except`: roll back and raise again; `finally`: close the session. -/
def inSession (body : Job Unit) : Job Unit := do
  tryCatch
    (tryCatch body fun error => do
      Fallible.attempt (ask .rollback)
      throw error)
    fun error => do
      Fallible.lift (ask .close)
      throw error
  Fallible.lift (ask .close)

/-- `execute_cleanup_job`. -/
def executeCleanupJob (settings : Settings) (now : Instant) : Job Unit := do
  Fallible.lift (ask .openClients)
  inSession (cleanUp settings (settings.retentionCutoff now))

/-! ## What the calls do -/

/-- Which calls fail, and which of the removals from MinIO; what fails is not carried
out. -/
structure Failures where
  raises : Call → Bool
  removals : ℕ → Bool

/-- Nothing fails. -/
def Failures.never : Failures where
  raises _ := false
  removals _ := false

/-- Which calls to Qdrant fail. -/
abbrev Failures.qdrant (failures : Failures) : Program.Faults QdrantCall :=
  .refusing fun request => failures.raises (.qdrant request)

/-- A statement that fails or is carried out. -/
def unlessRaised {α : Type} (raised : Bool) (stores : Stores) (done : α × Stores) :
    Except PyError α × Stores :=
  if raised then (.error .sqlError, stores) else (.ok done.1, done.2)

/-- What the calls do to the stores. -/
def Stores.handler (failures : Failures) (engine : Engine) : Program.Handler Call Reply Stores
  | .openClients, stores => ((), stores.opened)
  | .selectTracking cutoff, stores =>
      unlessRaised (failures.raises (.selectTracking cutoff)) stores
        ((stores.view.tracking.select fun row => row.timestamp < cutoff).map
          fun row => (row.id, row.personId, row.cropPath), stores)
  | .selectFire cutoff, stores =>
      unlessRaised (failures.raises (.selectFire cutoff)) stores
        ((stores.view.fire.select fun row => row.timestamp < cutoff).map
          fun row => (row.id, row.cropPath), stores)
  | .selectPersons cutoff, stores =>
      unlessRaised (failures.raises (.selectPersons cutoff)) stores
        ((stores.view.persons.select fun row => row.lastSeen < cutoff).map PersonRow.id, stores)
  | .qdrant request, stores =>
      Program.Handler.focus Stores.qdrant Stores.setQdrant
        (Qdrant.handler failures.qdrant engine) request stores
  | .minio request, stores =>
      Program.Handler.focus Stores.minio Stores.setMinio
        (Minio.handler failures.removals) request stores
  | .deleteTracking ids, stores =>
      unlessRaised (failures.raises (.deleteTracking ids)) stores
        ((), stores.collect (.tracking ids))
  | .deleteFire ids, stores =>
      unlessRaised (failures.raises (.deleteFire ids)) stores ((), stores.collect (.fire ids))
  | .deleteAlerts cutoff, stores =>
      let ids := (stores.view.alerts.select fun row => row.timestamp < cutoff).map AlertRow.id
      unlessRaised (failures.raises (.deleteAlerts cutoff)) stores
        (ids.length, stores.collect (.alerts ids))
  | .deletePersons ids, stores =>
      unlessRaised (failures.raises (.deletePersons ids)) stores ((), stores.collect (.persons ids))
  | .commit, stores => unlessRaised (failures.raises .commit) stores ((), stores.committed)
  | .rollback, stores =>
      (if failures.raises .rollback then .error .sqlError else .ok (), stores.cleared)
  | .close, stores => ((), stores.cleared)

end PersonTracking.Scheduler
