import Mathlib.Data.List.Nodup
import PersonTracking.Python.DateTime
import PersonTracking.Python.Uuid

/-!
# Cameras

The table `cameras`, the queries and changes of `CameraService`, and the response
that is made of a row.  The status of a row is changed by `update_status` alone.
-/

namespace PersonTracking.CameraService

open Python

/-- The values the column `status` admits. -/
inductive CameraStatus
  | connected
  | disconnected
deriving DecidableEq, Repr

/-- Their text. -/
def CameraStatus.text : CameraStatus → String
  | connected => "CONNECTED"
  | disconnected => "DISCONNECTED"

/-- `Camera`. -/
structure Camera where
  id : Uuid
  name : String
  rtspUrl : String
  location : Option String
  status : CameraStatus
  fps : Int
  createdAt : DateTime
deriving DecidableEq, Repr

/-- `CameraResponse`. -/
structure CameraResponse where
  id : String
  name : String
  rtspUrl : String
  location : Option String
  status : String
  fps : Int
  createdAt : String
deriving DecidableEq, Repr

/-- `_to_response_dto`. -/
def toResponseDto (camera : Camera) : CameraResponse where
  id := camera.id.toText
  name := camera.name
  rtspUrl := camera.rtspUrl
  location := camera.location
  status := camera.status.text
  fps := camera.fps
  createdAt := String.ofList camera.createdAt.isoformat ++ "Z"

/-! ## The table -/

/-- The rows, each under an id of its own. -/
structure CameraTable where
  rows : List Camera
  distinct : (rows.map Camera.id).Nodup

namespace CameraTable

/-- No rows. -/
def empty : CameraTable where
  rows := []
  distinct := List.nodup_nil

/-- Rows changed, their ids kept. -/
def change (table : CameraTable) (f : Camera → Camera) (keeps : ∀ row, (f row).id = row.id) :
    CameraTable where
  rows := table.rows.map f
  distinct := by
    rw [List.map_map, show Camera.id ∘ f = Camera.id from funext keeps]
    exact table.distinct

/-- `get_by_id`. -/
def getById (table : CameraTable) (id : Uuid) : Option Camera :=
  table.rows.find? fun row => row.id = id

/-- `create_camera` with its commit; `none` where a constraint refuses the row. -/
def createCamera (table : CameraTable) (camera : Camera) : Option CameraTable :=
  if new : camera.id ∉ table.rows.map Camera.id then
    if camera.rtspUrl ∈ table.rows.map Camera.rtspUrl then none
    else some {
      rows := table.rows ++ [{ camera with status := .disconnected }]
      distinct := by
        rw [List.map_append, List.nodup_append]
        refine ⟨table.distinct, List.nodup_singleton _, ?_⟩
        rintro id member other own rfl
        rw [List.map_singleton, List.mem_singleton] at own
        exact new (own ▸ member) }
  else none

/-- `update_camera` with its commit: the fields that are given. -/
def updateCamera (table : CameraTable) (id : Uuid) (name location : Option String)
    (fps : Option Int) : CameraTable :=
  table.change (fun row => if row.id = id then
    { row with
      name := name.getD row.name
      location := location.orElse fun _ => row.location
      fps := fps.getD row.fps } else row) fun row => by split <;> rfl

/-- `delete_camera` with its commit. -/
def deleteCamera (table : CameraTable) (id : Uuid) : CameraTable where
  rows := table.rows.filter fun row => row.id ≠ id
  distinct := table.distinct.sublist (List.filter_sublist.map Camera.id)

/-- `update_status`. -/
def updateStatus (table : CameraTable) (id : Uuid) (status : CameraStatus) : CameraTable :=
  table.change (fun row => if row.id = id then { row with status } else row) fun row => by
    split <;> rfl

/-- The order of `list_all_cameras`: the newest first. -/
def listedBefore (a b : Camera) : Bool :=
  b.createdAt.instant < a.createdAt.instant ||
    (b.createdAt.instant = a.createdAt.instant && a.id.int ≤ b.id.int)

/-- `list_all_cameras`. -/
def listAllCameras (table : CameraTable) (limit : Option ℕ) (offset : ℕ) : List Camera :=
  let listed := (table.rows.mergeSort listedBefore).drop offset
  match limit with
  | none => listed
  | some limit => listed.take limit

/-- Where the limit leaves room, all rows are listed. -/
theorem mem_listAllCameras {table : CameraTable} {limit : ℕ} {camera : Camera}
    (room : table.rows.length ≤ limit) :
    camera ∈ table.listAllCameras (some limit) 0 ↔ camera ∈ table.rows := by
  rw [listAllCameras, List.drop_zero, List.take_of_length_le (by simpa using room),
    List.mem_mergeSort]

/-- A changed row is found changed. -/
theorem getById_change {table : CameraTable} {f : Camera → Camera}
    (keeps : ∀ row, (f row).id = row.id) (id : Uuid) :
    (table.change f keeps).getById id = (table.getById id).map f := by
  rw [getById, change, List.find?_map, getById]
  congr 2
  funext row
  simp [keeps row]

/-- The row that is found has the id. -/
theorem id_of_getById {table : CameraTable} {id : Uuid} {row : Camera}
    (found : table.getById id = some row) : row.id = id := by
  simpa using List.find?_some found

/-- The status of a row after `update_status`. -/
theorem getById_updateStatus (table : CameraTable) (id other : Uuid) (status : CameraStatus) :
    (table.updateStatus id status).getById other =
      (table.getById other).map fun row => if other = id then { row with status } else row := by
  rw [updateStatus, getById_change]
  cases found : table.getById other with
  | none => rfl
  | some row => rw [Option.map_some, Option.map_some, id_of_getById found]

/-- A row is found under its id. -/
theorem getById_of_mem {table : CameraTable} {row : Camera} (member : row ∈ table.rows) :
    table.getById row.id = some row := by
  cases found : table.getById row.id with
  | none =>
      have nobody := List.find?_eq_none.mp found row member
      simp at nobody
  | some other =>
      rw [List.inj_on_of_nodup_map table.distinct (List.mem_of_find?_eq_some found) member
        (id_of_getById found)]

end CameraTable

end PersonTracking.CameraService
