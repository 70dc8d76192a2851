import Mathlib.Data.Rat.Defs
import PersonTracking.CameraService.Cameras
import PersonTracking.Library.Transition

/-!
# The health monitor

A batch of `RtspHealthChecker.start_monitoring` takes its list of cameras from the
table or, while that has not expired, from its cache, probes every camera of the list
and writes where the outcome differs from the status *in the list*.  The rows of a
fresh list are those of the batch's own session, so a write changes them, too; the
rows of a cached list are detached, and a write leaves them behind.

`delivered_of_upToDate` says when the outcome reaches every camera: the list has every
registered camera with the status that is stored.  `verdict_lost` is a run in which it
does not, with an interval of zero.
-/

namespace PersonTracking.CameraService

open Library Python

/-- The settings the monitor reads. -/
structure HealthSettings where
  healthCheckIntervalSeconds : Int
  cameraListMaxLimit : ℕ
deriving DecidableEq, Repr

/-- A completed batch: the cameras that were registered when it began, and what the
probe of each has come to. -/
structure Batch where
  registered : List Camera
  online : Uuid → Bool

/-- The table with the cache of the checker, and the batch that has just completed. -/
structure Monitor where
  table : CameraTable
  cameraCache : List Camera
  cameraCacheExpiresAt : ℚ
  completed : Option Batch

/-- Where a batch raises: while it loads the list, or at a write or the commit, after
it has gone through so many results. -/
inductive BatchFailure
  | load
  | after (results : ℕ)
deriving DecidableEq, Repr

/-- A request to the camera routes, or a batch, with the clock it reads, the outcomes
of its probes, and the failure it meets. -/
inductive MonitorStep
  | create (camera : Camera)
  | update (id : Uuid) (name location : Option String) (fps : Option Int)
  | delete (id : Uuid)
  | batch (now : ℚ) (online : Uuid → Bool) (failure : Option BatchFailure)

/-- `"CONNECTED" if is_online else "DISCONNECTED"`. -/
def statusOf (online : Bool) : CameraStatus := if online then .connected else .disconnected

/-- The loop over the results: write where the row in the list says something else. -/
def applyResults (online : Uuid → Bool) : List Camera → CameraTable → CameraTable
  | [], table => table
  | camera :: rest, table =>
      applyResults online rest
        (if camera.status ≠ statusOf (online camera.id) then
          table.updateStatus camera.id (statusOf (online camera.id))
        else table)

namespace Monitor

variable (settings : HealthSettings)

/-- No camera, and an empty cache that has expired. -/
def start : Monitor where
  table := CameraTable.empty
  cameraCache := []
  cameraCacheExpiresAt := 0
  completed := none

/-- The cache has not expired. -/
def isCached (monitor : Monitor) (now : ℚ) : Bool := now < monitor.cameraCacheExpiresAt

/-- `_load_cameras`: the list of a batch. -/
def loadCameras (monitor : Monitor) (now : ℚ) : List Camera :=
  if monitor.isCached now then monitor.cameraCache
  else monitor.table.listAllCameras (some settings.cameraListMaxLimit) 0

/-- The checker after a batch that has gone through some results: a fresh list is
cached, and its rows have got what was written. -/
def remember (monitor : Monitor) (now : ℚ) (online : Uuid → Bool) (results : ℕ) : Monitor :=
  if monitor.isCached now then monitor
  else
    let cameras := monitor.loadCameras settings now
    { monitor with
      cameraCache := ((cameras.take results).map fun camera =>
        { camera with status := statusOf (online camera.id) }) ++ cameras.drop results
      cameraCacheExpiresAt := now + max settings.healthCheckIntervalSeconds 1 }

/-- One batch.  One that raises is rolled back. -/
def batch (monitor : Monitor) (now : ℚ) (online : Uuid → Bool) : Option BatchFailure → Monitor
  | some .load => { monitor with completed := none }
  | some (.after results) =>
      { monitor.remember settings now online results with completed := none }
  | none =>
      let cameras := monitor.loadCameras settings now
      { monitor.remember settings now online cameras.length with
        table := applyResults online cameras monitor.table
        completed := some { registered := monitor.table.rows, online } }

/-- One step. -/
def step (monitor : Monitor) : MonitorStep → Option Monitor
  | .create camera => (monitor.table.createCamera camera).map fun table =>
      { monitor with table, completed := none }
  | .update id name location fps => some { monitor with
      table := monitor.table.updateCamera id name location fps
      completed := none }
  | .delete id => some { monitor with
      table := monitor.table.deleteCamera id
      completed := none }
  | .batch now online failure => some (monitor.batch settings now online failure)

/-- **The verdict has reached every camera**: after a batch that has completed, every
camera that was registered has the status its probe has come to. -/
def Delivered (monitor : Monitor) : Prop :=
  ∀ batch ∈ monitor.completed, ∀ camera ∈ batch.registered,
    ∃ row, monitor.table.getById camera.id = some row ∧
      row.status = statusOf (batch.online camera.id)

/-- The condition on a step: the list of a batch that completes has every registered
camera with the status that is stored. -/
def UpToDate (monitor : Monitor) : MonitorStep → Prop
  | .batch now _ none => ∀ row ∈ monitor.table.rows, ∃ camera ∈ monitor.loadCameras settings now,
      camera.id = row.id ∧ camera.status = row.status
  | _ => True

end Monitor

/-! ## One batch -/

/-- The row with the status the outcome says. -/
def Camera.probed (online : Uuid → Bool) (row : Camera) : Camera :=
  { row with status := statusOf (online row.id) }

/-- One result. -/
theorem getById_result (online : Uuid → Bool) (camera : Camera) (table : CameraTable) (id : Uuid) :
    (if camera.status ≠ statusOf (online camera.id) then
        table.updateStatus camera.id (statusOf (online camera.id))
      else table).getById id =
      (table.getById id).map fun row =>
        if camera.id = id ∧ camera.status ≠ statusOf (online id) then row.probed online
        else row := by
  cases found : table.getById id with
  | none =>
      split
      · rw [CameraTable.getById_updateStatus, found]
        rfl
      · exact found
  | some row =>
      have own : row.id = id := CameraTable.id_of_getById found
      by_cases same : camera.id = id
      · subst same
        by_cases differs : camera.status ≠ statusOf (online camera.id)
        · rw [if_pos differs, CameraTable.getById_updateStatus, found]
          simp [differs, Camera.probed, own]
        · rw [if_neg differs, found]
          simp [differs]
      · split
        · rw [CameraTable.getById_updateStatus, found]
          simp [same, Ne.symm same]
        · rw [found]
          simp [same]

/-- **What the loop over the results leaves of a row**: the outcome, if some row of
the list with its id says something else. -/
theorem getById_applyResults (online : Uuid → Bool) (cameras : List Camera) (table : CameraTable)
    (id : Uuid) :
    (applyResults online cameras table).getById id =
      (table.getById id).map fun row =>
        if ∃ camera ∈ cameras, camera.id = id ∧ camera.status ≠ statusOf (online id) then
          row.probed online
        else row := by
  induction cameras generalizing table with
  | nil => simp [applyResults]
  | cons camera rest ih =>
      rw [applyResults, ih, getById_result, Option.map_map]
      congr 1
      funext row
      have again : (row.probed online).probed online = row.probed online := rfl
      by_cases here : camera.id = id ∧ camera.status ≠ statusOf (online id)
      · simp [here, again]
      · have later : (∃ other ∈ camera :: rest, other.id = id ∧
            other.status ≠ statusOf (online id)) ↔
            ∃ other ∈ rest, other.id = id ∧ other.status ≠ statusOf (online id) := by
          simp only [List.exists_mem_cons_iff, here, false_or]
        simp only [Function.comp_apply, if_neg here, later]

namespace Monitor

variable {settings : HealthSettings} {monitor after : Monitor}

/-- A list that is loaded afresh, with room for all cameras, is up to date. -/
theorem upToDate_of_fresh {now : ℚ} {online : Uuid → Bool}
    (expired : monitor.cameraCacheExpiresAt ≤ now)
    (room : monitor.table.rows.length ≤ settings.cameraListMaxLimit) :
    monitor.UpToDate settings (.batch now online none) := by
  intro row member
  have fresh : monitor.isCached now = false := by simpa [isCached] using expired
  refine ⟨row, ?_, rfl, rfl⟩
  rw [loadCameras, fresh, if_neg Bool.false_ne_true, CameraTable.mem_listAllCameras room]
  exact member

/-- Where no batch has just completed, nothing is claimed. -/
theorem delivered_of_none (nothing : monitor.completed = none) : monitor.Delivered := by
  intro batch completed
  rw [nothing] at completed
  cases completed

/-- **One batch** that completes on a list that is up to date delivers its outcome. -/
theorem delivered_batch {now : ℚ} {online : Uuid → Bool}
    (upToDate : monitor.UpToDate settings (.batch now online none)) :
    (monitor.batch settings now online none).Delivered := by
  rintro batch ⟨⟩ row member
  have found := CameraTable.getById_of_mem member
  obtain ⟨camera, listed, own, same⟩ := upToDate row member
  show ∃ after, (applyResults online _ monitor.table).getById row.id = some after ∧ _
  rw [getById_applyResults, found, Option.map_some]
  refine ⟨_, rfl, ?_⟩
  by_cases written : ∃ camera ∈ monitor.loadCameras settings now,
      camera.id = row.id ∧ camera.status ≠ statusOf (online row.id)
  · rw [if_pos written]
    rfl
  · -- nothing is written, so the row in the list says what the outcome says
    rw [if_neg written]
    by_contra differs
    exact written ⟨camera, listed, own, fun agrees => differs (same.symm.trans agrees)⟩

/-- **Every verdict reaches every camera**, over all runs of the camera routes and of
batches, whatever the clock reads and the probes come to, as long as the list of each
batch that completes is up to date. -/
theorem delivered_of_upToDate {steps : List MonitorStep}
    (upToDate : Meets (UpToDate settings) (step settings) start steps)
    (reached : runFrom (step settings) start steps = some after) : after.Delivered := by
  refine runFrom_invariant_of_meets (I := Delivered) (fun monitor step next _ met moved => ?_)
    (delivered_of_none rfl) upToDate reached
  cases step with
  | create camera =>
      obtain ⟨table, -, rfl⟩ := Option.map_eq_some_iff.mp moved
      exact delivered_of_none rfl
  | update id name location fps =>
      cases moved
      exact delivered_of_none rfl
  | delete id =>
      cases moved
      exact delivered_of_none rfl
  | batch now online failure =>
      cases moved
      cases failure with
      | none => exact delivered_batch met
      | some failure =>
          cases failure with
          | load => exact delivered_of_none rfl
          | after results => exact delivered_of_none rfl

/-! ## An interval of zero -/

/-- A batch that completes, in which all probes come to the same. -/
def batchAt (now : ℚ) (online : Bool) : MonitorStep := .batch now (fun _ => online) none

/-- A camera. -/
def exampleCamera : Camera where
  id := .ofNat 1
  name := "Gate"
  rtspUrl := "rtsp://10.0.0.1/stream"
  location := none
  status := .disconnected
  fps := 30
  createdAt := {
    year := 2025
    month := 3
    day := 1
    hour := 8
    minute := 5
    second := 0
    microsecond := 0
    utcoffset := none
    validDate := by decide
    validTime := by decide
    validOffset := by decide }

instance (monitor : Monitor) (step : MonitorStep) : Decidable (monitor.UpToDate settings step) :=
  match step with
  | .create _ | .update _ _ _ _ | .delete _ | .batch _ _ (some _) => isTrue trivial
  | .batch now _ none => inferInstanceAs (Decidable (∀ row ∈ monitor.table.rows,
      ∃ camera ∈ monitor.loadCameras settings now, camera.id = row.id ∧ camera.status = row.status))

theorem delivered_of_upToDate_example :
    ∃ after, runFrom (step ⟨15, 100⟩) start
        [.create exampleCamera, batchAt 0 true, batchAt 15 false] = some after ∧
      after.Delivered := by
  have runs : (runFrom (step ⟨15, 100⟩) start
      [.create exampleCamera, batchAt 0 true, batchAt 15 false]).isSome = true := by
    decide +kernel
  obtain ⟨after, reached⟩ := Option.isSome_iff_exists.mp runs
  exact ⟨after, reached, delivered_of_upToDate (by decide +kernel) reached⟩

/-- **A verdict is lost**: three batches within a second.  The camera is up in the
second one, which leaves the cached row behind, and down in the third, which takes
the cached row for the stored one. -/
theorem verdict_lost :
    ∃ after, runFrom (step ⟨0, 100⟩) start
        [.create exampleCamera, batchAt 0 false, batchAt (1 / 10) true, batchAt (1 / 5) false] =
          some after ∧
      ¬ after.Delivered := by
  have lost : ∃ monitor ∈ runFrom (step ⟨0, 100⟩) start
      [.create exampleCamera, batchAt 0 false, batchAt (1 / 10) true, batchAt (1 / 5) false],
      ∃ row ∈ monitor.table.getById exampleCamera.id, row.status = .connected ∧
        ∃ batch ∈ monitor.completed, exampleCamera.id ∈ batch.registered.map Camera.id ∧
          batch.online exampleCamera.id = false := by
    decide +kernel
  obtain ⟨after, reached, row, found, connected, batch, completed, registered, down⟩ := lost
  refine ⟨after, reached, fun delivered => ?_⟩
  obtain ⟨camera, member, own⟩ := List.mem_map.mp registered
  obtain ⟨stored, there, status⟩ := delivered batch completed camera member
  rw [own] at there status
  rw [found, Option.some.injEq] at there
  rw [← there, connected, down] at status
  cases status

end Monitor

end PersonTracking.CameraService
